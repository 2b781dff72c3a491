import Zedio.Net.BuildStream

/-!
# Listeners, `accept` and `shutdown`

`bind` and `listen` of both classes return the system call as a `Result<void>`.
`SocketIO::build_listener` chains `build_socket`, `bind(addr)` and `listen(SOMAXCONN)` and stops at
the first failure; it succeeds exactly when all three calls do, with the listener around the new
descriptor. `accept` is an operation descriptor whose success is a stream around the accepted
descriptor, paired with the peer address the kernel wrote.

`Socket::shutdown` is the one wrapper without the common tail: on success control flows off the
end of the function, which then returns no value.
-/

namespace Zedio.Net

def SOMAXCONN : Int := 4096

abbrev BindKernel (Addr : Type) := (fd : Int) → (addr : Addr) → (addrlen : Nat) → SysCall

abbrev ListenKernel := (fd n : Int) → SysCall

abbrev ShutdownKernel := (fd : Int) → (how : Nat) → SysCall

inductive ShutdownOption where
  | read
  | write
  | readWrite
  deriving DecidableEq, Repr

def ShutdownOption.how : ShutdownOption → Nat
  | read => 0
  | write => 1
  | readWrite => 2

variable {Addr : Type} [SocketAddress Addr]

/-! ## `Socket` -/

def Socket.bind (bind : BindKernel Addr) (fd : Int) (addr : Addr) : Result Unit :=
  (bind fd addr (SocketAddress.length addr)).check

def Socket.listen (listen : ListenKernel) (fd n : Int) : Result Unit :=
  (listen fd n).check

/-- `Socket::shutdown(how)`: `none` where control flows off the end without a `return`. -/
def Socket.shutdown (shutdown : ShutdownKernel) (fd : Int) (how : ShutdownOption) :
    Option (Result Unit) :=
  let ret := shutdown fd how.how
  if ret.ret = -1 then some (.error (makeSysError ret.errno)) else none

/-- `Socket::shutdown` returns what `bind`, `listen` and the option setters return for the same
answer only when the call fails; on every success it returns no value. -/
theorem Socket.shutdown_eq_some_iff (shutdown : ShutdownKernel) (fd : Int)
    (how : ShutdownOption) (r : Result Unit) :
    Socket.shutdown shutdown fd how = some r ↔
      (shutdown fd how.how).ret = -1 ∧ r = (shutdown fd how.how).check := by
  simp only [Socket.shutdown, SysCall.check]
  split
  · next h => simp [h, eq_comm]
  · next h => simp [h]

/-! ## `SocketIO` -/

namespace SocketIo

def bind (bind : BindKernel Addr) (io : SocketIo) (addr : Addr) : Result Unit :=
  (bind io.fd addr (SocketAddress.length addr)).check

def listen (listen : ListenKernel) (io : SocketIo) (n : Int) : Result Unit :=
  (listen io.fd n).check

/-- `SocketIO::build_listener<Listener, Addr>(addr)`, the listener given by the `SocketIO` it is
built from. -/
def buildListener (socket : SocketKernel) (bind : BindKernel Addr) (listen : ListenKernel)
    (addr : Addr) : Result SocketIo :=
  match buildSocket socket (SocketAddress.family addr) SOCK_STREAM 0 with
  | .error e => .error e
  | .ok io =>
    match io.bind bind addr with
    | .error e => .error e
    | .ok () =>
      match io.listen listen SOMAXCONN with
      | .error e => .error e
      | .ok () => .ok io

/-- The arguments of `io_uring_prep_accept`: the listening descriptor, the capacity `length_`
of the address buffer and the flags. -/
structure PrepAccept where
  fd : Int
  addrlen : Nat
  flags : Nat
  deriving DecidableEq, Repr

/-- `co_await io.accept<Stream, Addr>()`, the stream given by its `SocketIO`: the arguments it
submits, and for the raw result and the peer address the kernel wrote to `addr_`, its result. -/
def accept (io : SocketIo) (result : Int) (peer : Addr) :
    PrepAccept × Result (SocketIo × Addr) :=
  (⟨io.fd, SocketAddress.size Addr, SOCK_NONBLOCK⟩,
    Io.awaitResumeWith (fun fd ↦ (⟨fd⟩, peer)) result)

theorem buildSocket_eq_ok_iff (socket : SocketKernel) (domain type protocol : Nat)
    (io : SocketIo) :
    buildSocket socket domain type protocol = .ok io ↔
      ∃ fd : Nat, socket domain (type ||| SOCK_NONBLOCK) protocol = .ok fd ∧ io = ⟨fd⟩ := by
  simp only [buildSocket]
  cases socket domain (type ||| SOCK_NONBLOCK) protocol <;> simp [SysCall.ret, eq_comm]

/-- `build_listener` succeeds exactly when `socket` gives a descriptor and `bind`, with the
address and its length, and `listen`, with the backlog `SOMAXCONN`, succeed on it; the listener
is around that descriptor. -/
theorem buildListener_eq_ok_iff (socket : SocketKernel) (bind : BindKernel Addr)
    (listen : ListenKernel) (addr : Addr) (io : SocketIo) :
    buildListener socket bind listen addr = .ok io ↔
      ∃ fd : Nat,
        socket (SocketAddress.family addr) (SOCK_STREAM ||| SOCK_NONBLOCK) 0 = .ok fd ∧
        io = ⟨fd⟩ ∧ (bind fd addr (SocketAddress.length addr)).check = .ok () ∧
        (listen fd SOMAXCONN).check = .ok () := by
  cases hs : socket (SocketAddress.family addr) (SOCK_STREAM ||| SOCK_NONBLOCK) 0 with
  | err errno => simp [buildListener, buildSocket, hs, SysCall.ret]
  | ok fd =>
    simp only [buildListener, buildSocket, hs, SysCall.ret, SocketIo.bind, SocketIo.listen]
    cases hb : (bind fd addr (SocketAddress.length addr)).check <;>
      cases hl : (listen fd SOMAXCONN).check <;> simp [hb, hl, eq_comm]

/-- A failed `build_listener` reports the error of the first of `socket`, `bind` and `listen`
that failed. -/
theorem buildListener_eq_error_iff (socket : SocketKernel) (bind : BindKernel Addr)
    (listen : ListenKernel) (addr : Addr) (e : SysError) :
    buildListener socket bind listen addr = .error e ↔
      (∃ errno : Nat,
        socket (SocketAddress.family addr) (SOCK_STREAM ||| SOCK_NONBLOCK) 0 = .err errno ∧
          e = makeSysError errno) ∨
      ∃ fd : Nat,
        socket (SocketAddress.family addr) (SOCK_STREAM ||| SOCK_NONBLOCK) 0 = .ok fd ∧
        ((bind fd addr (SocketAddress.length addr)).check = .error e ∨
          (bind fd addr (SocketAddress.length addr)).check = .ok () ∧
            (listen fd SOMAXCONN).check = .error e) := by
  cases hs : socket (SocketAddress.family addr) (SOCK_STREAM ||| SOCK_NONBLOCK) 0 with
  | err errno => simp [buildListener, buildSocket, hs, SysCall.ret, SysCall.errno, eq_comm]
  | ok fd =>
    simp only [buildListener, buildSocket, hs, SysCall.ret, SocketIo.bind, SocketIo.listen]
    cases hb : (bind fd addr (SocketAddress.length addr)).check <;>
      cases hl : (listen fd SOMAXCONN).check <;> simp [hb, hl]

end SocketIo

end Zedio.Net
