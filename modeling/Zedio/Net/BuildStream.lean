import Zedio.Io.Result

/-!
# `SocketIO::build_stream`

`build_stream<Stream, Addr>(addr)` returns an awaitable, a local class `Connect`, that creates
the socket in its `await_suspend` and submits the connect only once the socket exists. When
`socket()` fails it stores `ret.error().value()`, the positive `errno`, into `cb_.result_` and
does not suspend; `await_resume` reads that non-negative result as a success and builds the
stream from its `SocketIO{-1}`. The failure of `socket()` is lost: the result is a stream that
owns no descriptor.

`build_socket` itself is `Socket::build` with `SOCK_NONBLOCK` added to the type.

When `socket()` succeeds the awaitable behaves like `build_socket` followed by `connect(addr)`,
except that the length it submits is `sizeof(Addr)` where `SocketIO::connect` submits
`addr.length()`. The generic `io::Connect` descriptor is not among the sources; the composition
uses the descriptor rule of the spec for it.
-/

namespace Zedio.Net

/-- What `is_socket_address<Addr>` provides, and `sizeof(Addr)`. A pointer
`addr.sockaddr()` is modelled by the address it points to. -/
class SocketAddress (Addr : Type) where
  family : Addr → Nat
  length : Addr → Nat
  size : Nat

def SOCK_STREAM : Nat := 1

def SOCK_NONBLOCK : Nat := 0o4000

structure SocketIo where
  fd : Int
  deriving DecidableEq, Repr

/-- The arguments of `io_uring_prep_connect`: descriptor, address (`none` for `nullptr`) and
length. -/
structure PrepConnect (Addr : Type) where
  fd : Int
  addr : Option Addr
  addrlen : Nat
  deriving DecidableEq, Repr

abbrev SocketKernel := (domain type protocol : Nat) → SysCall

def Socket.build (socket : SocketKernel) (domain type protocol : Nat) : Result Int :=
  let fd := socket domain type protocol
  if fd.ret ≠ -1 then .ok fd.ret else .error (makeSysError fd.errno)

namespace SocketIo

variable {Addr : Type} [SocketAddress Addr]

def buildSocket (socket : SocketKernel) (domain type protocol : Nat) : Result SocketIo :=
  let fd := socket domain (type ||| SOCK_NONBLOCK) protocol
  if fd.ret ≠ -1 then .ok ⟨fd.ret⟩ else .error (makeSysError fd.errno)

/-- `build_socket` is `Socket::build` with `SOCK_NONBLOCK` added to the type, around a
`SocketIO`: the same call and the same errors, and a non-blocking socket. -/
theorem buildSocket_eq_build (socket : SocketKernel) (domain type protocol : Nat) :
    buildSocket socket domain type protocol =
      (Socket.build socket domain (type ||| SOCK_NONBLOCK) protocol).map SocketIo.mk := by
  simp only [buildSocket, Socket.build]
  split <;> rfl

def connect (io : SocketIo) (addr : Addr) : PrepConnect Addr :=
  ⟨io.fd, some addr, SocketAddress.length addr⟩

/-- The awaitable `build_stream` returns: the arguments it passes to `io_uring_prep_connect`
(`args_`), the raw result `cb_.result_`, its `io_` and its copy `addr_` of the address. -/
structure Connect (Addr : Type) where
  args : PrepConnect Addr
  result : Int
  io : SocketIo
  addr : Addr

/-- `Connect(addr)`: `Super{io_uring_prep_connect, -1, nullptr, sizeof(Addr)}` and
`io_{-1}`; `cb_.result_` is written before it is read. -/
def Connect.init (addr : Addr) : Connect Addr :=
  ⟨⟨-1, none, SocketAddress.size Addr⟩, 0, ⟨-1⟩, addr⟩

/-- `Connect::await_suspend`: creates the socket; on failure stores `ret.error().value()` and
does not suspend, otherwise fills in the descriptor and the address and submits. The `Bool` is
whether it suspended. -/
def Connect.awaitSuspend (socket : SocketKernel) (c : Connect Addr) : Connect Addr × Bool :=
  match buildSocket socket (SocketAddress.family c.addr) SOCK_STREAM 0 with
  | .error e => ({ c with result := e.value }, false)
  | .ok io => ({ c with io := io, args := { c.args with fd := io.fd, addr := some c.addr } }, true)

def Connect.awaitResume (c : Connect Addr) : Result SocketIo :=
  Io.awaitResumeWith (fun _ ↦ c.io) c.result

/-- `co_await SocketIO::build_stream<Stream, Addr>(addr)`, the stream given by the `SocketIO` it
is built from: `socket` answers `::socket`, and the kernel posts `result` for a submitted
connect. It gives the submitted connect, if any, and the result. -/
def buildStream (socket : SocketKernel) (addr : Addr) (result : Int) :
    Option (PrepConnect Addr) × Result SocketIo :=
  let (c, suspended) := (Connect.init addr).awaitSuspend socket
  if suspended then (some c.args, { c with result := result }.awaitResume)
  else (none, c.awaitResume)

/-- The composition `build_stream` stands for: `build_socket(addr.family(), SOCK_STREAM, 0)`,
then `co_await io.connect(addr)`, then a stream around `io`. -/
def buildStreamSpec (socket : SocketKernel) (addr : Addr) (result : Int) :
    Option (PrepConnect Addr) × Result SocketIo :=
  match buildSocket socket (SocketAddress.family addr) SOCK_STREAM 0 with
  | .error e => (none, .error e)
  | .ok io => (some (io.connect addr), Io.awaitResumeWith (fun _ ↦ io) result)

/-- When `socket()` fails, `build_stream` submits nothing and succeeds with a stream whose
descriptor is `-1`, for every `errno`, address and kernel. -/
theorem buildStream_socket_fails (addr : Addr) (errno : Nat) (result : Int) :
    buildStream (fun _ _ _ ↦ .err errno) addr result = (none, .ok ⟨-1⟩) := by
  simp [buildStream, Connect.awaitSuspend, buildSocket, SysCall.ret, SysCall.errno,
    makeSysError, Connect.awaitResume, Connect.init, Io.awaitResumeWith, Int.ofNat_nonneg]

theorem buildStreamSpec_socket_fails (addr : Addr) (errno : Nat) (result : Int) :
    buildStreamSpec (fun _ _ _ ↦ .err errno) addr result =
      (none, .error (makeSysError errno)) := by
  simp [buildStreamSpec, buildSocket, SysCall.ret, SysCall.errno]

section Created

variable {socket : SocketKernel} {addr : Addr} {fd : Nat}
  (h : socket (SocketAddress.family addr) (SOCK_STREAM ||| SOCK_NONBLOCK) 0 = .ok fd)
include h

/-- When `socket()` gives `fd`, `build_stream` submits the connect on `fd` with the address and
`sizeof(Addr)`, and it gives the stream around `fd` for a non-negative posted result and the
error of the negated result otherwise. -/
theorem buildStream_socket_ok (result : Int) :
    buildStream socket addr result =
      (some ⟨fd, some addr, SocketAddress.size Addr⟩,
        Io.awaitResumeWith (fun _ ↦ ⟨fd⟩) result) := by
  simp [buildStream, Connect.awaitSuspend, buildSocket, h, SysCall.ret, Connect.awaitResume,
    Connect.init]

/-- With a socket created, `build_stream` is the composition whenever `addr.length()` is
`sizeof(Addr)`. -/
theorem buildStream_eq_spec (hlen : SocketAddress.length addr = SocketAddress.size Addr)
    (result : Int) : buildStream socket addr result = buildStreamSpec socket addr result := by
  rw [buildStream_socket_ok h]
  simp [buildStreamSpec, buildSocket, h, SysCall.ret, connect, hlen]

end Created

end SocketIo

end Zedio.Net
