import Zedio.Io.Result
import Mathlib.Algebra.Group.Int

/-!
# Socket options

`Socket` and `SocketIO` set options with `setsockopt` through `set_sock_opt` and read them with
`getsockopt` through `get_sock_opt`; both report a `-1` from the kernel as the error in `errno`.
A setter is modelled by the value it passes to `setsockopt` together with its result, a getter by
what it makes of the value `getsockopt` wrote.

`SO_LINGER` travels as a `struct linger` of two `int`s, while the duration is a
`std::chrono::seconds` whose count is 64 bits wide. `set_linger` narrows the count to `int`,
modulo `2^32`, and `linger` widens it back, so the round trip gives back every duration whose
count fits in an `int` and the reduced count otherwise. The code of both classes is the same.

The other options are four bytes wide. Their setters share one body and their getters another;
the members differ in `(level, optname)` and in how a getter reads the `int` it gets back. The
boolean getters of `Socket` test `optval == 1` where those of `SocketIO` test `optval != 0`: the
two agree on the `0` and `1` Linux reports for these options and on no other value. Every boolean
getter reads back what its setter set, through any kernel that keeps `0` and `1` as they are.
-/

namespace Zedio.Net

/-- `std::chrono::seconds`, by its count. -/
structure Seconds where
  count : Int
  deriving DecidableEq, Repr

structure Linger where
  l_onoff : Int
  l_linger : Int
  deriving DecidableEq, Repr

/-- The conversion of an integer to `int`: modulo `2^32`, into `[-2^31, 2^31)`. -/
def toCInt (x : Int) : Int := x.bmod (2 ^ 32)

def setSockOpt (setsockopt : SysCall) : Result Unit := setsockopt.check

def getSockOpt (getsockopt : SysCall) : Result Unit := getsockopt.check

/-- The body of `set_linger(duration)`: the `struct linger` it passes to `setsockopt`, and its
result. -/
def setLingerWith (duration : Option Seconds) (setsockopt : SysCall) : Linger × Result Unit :=
  let lin : Linger := match duration with
    | some d => ⟨1, toCInt d.count⟩
    | none => ⟨0, 0⟩
  (lin, setSockOpt setsockopt)

def lingerWith (getsockopt : SysCall) (lin : Linger) : Result (Option Seconds) :=
  match getSockOpt getsockopt with
  | .ok () => if lin.l_onoff = 0 then .ok none else .ok (some ⟨lin.l_linger⟩)
  | .error e => .error e

def Socket.setLinger := setLingerWith

def Socket.linger := lingerWith

def SocketIo.setLinger := setLingerWith

def SocketIo.linger := lingerWith

theorem toCInt_eq_self_iff (x : Int) : toCInt x = x ↔ -2 ^ 31 ≤ x ∧ x < 2 ^ 31 := by
  rw [toCInt, Int.bmod_def]
  split <;> omega

theorem lingerWith_setLingerWith (duration : Option Seconds) (setsockopt : SysCall) (ret : Nat) :
    lingerWith (.ok ret) (setLingerWith duration setsockopt).1 =
      .ok (duration.map fun d ↦ ⟨toCInt d.count⟩) := by
  cases duration <;> simp [lingerWith, setLingerWith, getSockOpt]

/-- The `SO_LINGER` round trip of `Socket` and of `SocketIO` gives back the duration with its
count reduced to `int`, which is the duration itself exactly when its count fits in an `int`. -/
theorem linger_setLinger (duration : Option Seconds) (setsockopt : SysCall) (ret : Nat) :
    Socket.linger (.ok ret) (Socket.setLinger duration setsockopt).1 =
        .ok (duration.map fun d ↦ ⟨toCInt d.count⟩) ∧
      SocketIo.linger (.ok ret) (SocketIo.setLinger duration setsockopt).1 =
        .ok (duration.map fun d ↦ ⟨toCInt d.count⟩) ∧
      (duration.map (fun d ↦ (⟨toCInt d.count⟩ : Seconds)) = duration ↔
        ∀ d ∈ duration, -2 ^ 31 ≤ d.count ∧ d.count < 2 ^ 31) := by
  refine ⟨lingerWith_setLingerWith duration setsockopt ret,
    lingerWith_setLingerWith duration setsockopt ret, ?_⟩
  cases duration with
  | none => simp
  | some d =>
    cases d
    simp [toCInt_eq_self_iff]

/-- Two to the 31 seconds come back as minus two to the 31. -/
theorem linger_setLinger_two_pow_31 :
    Socket.linger (.ok 0) (Socket.setLinger (some ⟨2 ^ 31⟩) (.ok 0)).1 =
      .ok (some ⟨-2 ^ 31⟩) := by
  decide

/-! ## Options of one `int` -/

/-- `SOL_SOCKET`, `IPPROTO_IP` and the option names of `<sys/socket.h>` and `<netinet/in.h>`
(Linux, x86-64). -/
def SOL_SOCKET : Nat := 1

def IPPROTO_IP : Nat := 0

def IP_TTL : Nat := 2

def SO_REUSEADDR : Nat := 2

def SO_BROADCAST : Nat := 6

def SO_SNDBUF : Nat := 7

def SO_RCVBUF : Nat := 8

def SO_KEEPALIVE : Nat := 9

def SO_REUSEPORT : Nat := 15

def SO_PASSCRED : Nat := 16

def SO_MARK : Nat := 36

/-- A call `::setsockopt(fd, level, optname, &optval, sizeof(optval))` of a four-byte option,
with the `int` the kernel reads at `optval`. -/
structure SetSockOpt where
  level : Nat
  optname : Nat
  optval : Int
  deriving DecidableEq, Repr

abbrev GetSockOptKernel := (level optname : Nat) → SysCall × Int

/-- The body of every setter of a four-byte option: the call it makes, and its result for the
kernel's answer to that call. -/
def setOptWith (level optname : Nat) (optval : Int) (setsockopt : SetSockOpt → SysCall) :
    SetSockOpt × Result Unit :=
  let call : SetSockOpt := ⟨level, optname, optval⟩
  (call, setSockOpt (setsockopt call))

/-- The body of every getter of a four-byte option: it asks for `(level, optname)` and gives
`convert optval` of the value the kernel wrote, or the error. -/
def optWith {α : Type} (convert : Int → α) (level optname : Nat)
    (getsockopt : GetSockOptKernel) : Result α :=
  let (ret, optval) := getsockopt level optname
  match getSockOpt ret with
  | .ok () => .ok (convert optval)
  | .error e => .error e

def toUInt32 (x : Int) : Nat := (x % 2 ^ 32).toNat

def toSizeT (x : Int) : Nat := (x % 2 ^ 64).toNat

/-! ### The options of `Socket`

Each setter `Socket::set_x(v)` is `setOptWith` at its `(level, optname)`, with `on ? 1 : 0` for a
boolean and the argument itself otherwise, the `uint32_t` TTL passed as an `int`. Each getter
`Socket::x()` is `optWith` at the same pair: `optval == 1` for a boolean, the bytes read as a
`uint32_t` for the TTL, and `static_cast<std::size_t>` for a buffer size. -/

def Socket.setReuseaddr (enable : Bool) : (SetSockOpt → SysCall) → SetSockOpt × Result Unit :=
  setOptWith SOL_SOCKET SO_REUSEADDR (if enable then 1 else 0)

def Socket.reuseaddr : GetSockOptKernel → Result Bool :=
  optWith (· == 1) SOL_SOCKET SO_REUSEADDR

def Socket.setReuseport (enable : Bool) : (SetSockOpt → SysCall) → SetSockOpt × Result Unit :=
  setOptWith SOL_SOCKET SO_REUSEPORT (if enable then 1 else 0)

def Socket.reuseport : GetSockOptKernel → Result Bool :=
  optWith (· == 1) SOL_SOCKET SO_REUSEPORT

def Socket.setTtl (ttl : Nat) : (SetSockOpt → SysCall) → SetSockOpt × Result Unit :=
  setOptWith IPPROTO_IP IP_TTL (toCInt ttl)

def Socket.ttl : GetSockOptKernel → Result Nat :=
  optWith toUInt32 IPPROTO_IP IP_TTL

def Socket.setBroadcast (enable : Bool) : (SetSockOpt → SysCall) → SetSockOpt × Result Unit :=
  setOptWith SOL_SOCKET SO_BROADCAST (if enable then 1 else 0)

def Socket.broadcast : GetSockOptKernel → Result Bool :=
  optWith (· == 1) SOL_SOCKET SO_BROADCAST

def Socket.setKeepalive (enable : Bool) : (SetSockOpt → SysCall) → SetSockOpt × Result Unit :=
  setOptWith SOL_SOCKET SO_KEEPALIVE (if enable then 1 else 0)

def Socket.keepalive : GetSockOptKernel → Result Bool :=
  optWith (· == 1) SOL_SOCKET SO_KEEPALIVE

def Socket.setRecvBufferSize (size : Int) : (SetSockOpt → SysCall) → SetSockOpt × Result Unit :=
  setOptWith SOL_SOCKET SO_RCVBUF size

def Socket.recvBufferSize : GetSockOptKernel → Result Nat :=
  optWith toSizeT SOL_SOCKET SO_RCVBUF

def Socket.setSendBufferSize (size : Int) : (SetSockOpt → SysCall) → SetSockOpt × Result Unit :=
  setOptWith SOL_SOCKET SO_SNDBUF size

def Socket.sendBufferSize : GetSockOptKernel → Result Nat :=
  optWith toSizeT SOL_SOCKET SO_SNDBUF

/-! ### The options of `SocketIO`

The same members, except that the boolean getters test `optval != 0`; `set_mark` has no getter,
and only `SocketIO` has `SO_PASSCRED`. -/

def SocketIo.setReuseaddr (enable : Bool) : (SetSockOpt → SysCall) → SetSockOpt × Result Unit :=
  setOptWith SOL_SOCKET SO_REUSEADDR (if enable then 1 else 0)

def SocketIo.reuseaddr : GetSockOptKernel → Result Bool :=
  optWith (· != 0) SOL_SOCKET SO_REUSEADDR

def SocketIo.setReuseport (enable : Bool) : (SetSockOpt → SysCall) → SetSockOpt × Result Unit :=
  setOptWith SOL_SOCKET SO_REUSEPORT (if enable then 1 else 0)

def SocketIo.reuseport : GetSockOptKernel → Result Bool :=
  optWith (· != 0) SOL_SOCKET SO_REUSEPORT

def SocketIo.setTtl (ttl : Nat) : (SetSockOpt → SysCall) → SetSockOpt × Result Unit :=
  setOptWith IPPROTO_IP IP_TTL (toCInt ttl)

def SocketIo.ttl : GetSockOptKernel → Result Nat :=
  optWith toUInt32 IPPROTO_IP IP_TTL

def SocketIo.setBroadcast (enable : Bool) : (SetSockOpt → SysCall) → SetSockOpt × Result Unit :=
  setOptWith SOL_SOCKET SO_BROADCAST (if enable then 1 else 0)

def SocketIo.broadcast : GetSockOptKernel → Result Bool :=
  optWith (· != 0) SOL_SOCKET SO_BROADCAST

def SocketIo.setKeepalive (enable : Bool) : (SetSockOpt → SysCall) → SetSockOpt × Result Unit :=
  setOptWith SOL_SOCKET SO_KEEPALIVE (if enable then 1 else 0)

def SocketIo.keepalive : GetSockOptKernel → Result Bool :=
  optWith (· != 0) SOL_SOCKET SO_KEEPALIVE

def SocketIo.setRecvBufferSize (size : Int) :
    (SetSockOpt → SysCall) → SetSockOpt × Result Unit :=
  setOptWith SOL_SOCKET SO_RCVBUF size

def SocketIo.recvBufferSize : GetSockOptKernel → Result Nat :=
  optWith toSizeT SOL_SOCKET SO_RCVBUF

def SocketIo.setSendBufferSize (size : Int) :
    (SetSockOpt → SysCall) → SetSockOpt × Result Unit :=
  setOptWith SOL_SOCKET SO_SNDBUF size

def SocketIo.sendBufferSize : GetSockOptKernel → Result Nat :=
  optWith toSizeT SOL_SOCKET SO_SNDBUF

def SocketIo.setMark (mark : Nat) : (SetSockOpt → SysCall) → SetSockOpt × Result Unit :=
  setOptWith SOL_SOCKET SO_MARK (toCInt mark)

def SocketIo.setPasscred (enable : Bool) : (SetSockOpt → SysCall) → SetSockOpt × Result Unit :=
  setOptWith SOL_SOCKET SO_PASSCRED (if enable then 1 else 0)

def SocketIo.passcred : GetSockOptKernel → Result Bool :=
  optWith (· != 0) SOL_SOCKET SO_PASSCRED

/-! ## Round trips through the kernel -/

/-- The four-byte options of one open socket, as the kernel reports them. -/
structure SockOpts where
  value : Nat → Nat → Int

def SockOpts.getsockopt (opts : SockOpts) : GetSockOptKernel :=
  fun level optname ↦ (.ok 0, opts.value level optname)

/-- The options after a successful `setsockopt` call whose `optval` the kernel keeps as
`keep optval`. -/
def SockOpts.set (opts : SockOpts) (keep : Int → Int) (call : SetSockOpt) : SockOpts :=
  ⟨fun level optname ↦ if level = call.level ∧ optname = call.optname then keep call.optval
    else opts.value level optname⟩

/-- Linux keeps a boolean option as `1` for a non-zero `optval` and `0` otherwise (`valbool` in
`sk_setsockopt`). -/
def valbool (optval : Int) : Int := if optval ≠ 0 then 1 else 0

/-- A getter reads what the kernel kept of the call of the setter of the same option. -/
theorem optWith_set {α : Type} (convert : Int → α) (keep : Int → Int) (opts : SockOpts)
    (level optname : Nat) (optval : Int) (setsockopt : SetSockOpt → SysCall) :
    optWith convert level optname
        (opts.set keep (setOptWith level optname optval setsockopt).1).getsockopt =
      .ok (convert (keep optval)) := by
  simp [optWith, SockOpts.set, SockOpts.getsockopt, setOptWith, getSockOpt]

def boolOptions :
    List ((Bool → (SetSockOpt → SysCall) → SetSockOpt × Result Unit) ×
      (GetSockOptKernel → Result Bool)) :=
  [(Socket.setReuseaddr, Socket.reuseaddr), (Socket.setReuseport, Socket.reuseport),
    (Socket.setBroadcast, Socket.broadcast), (Socket.setKeepalive, Socket.keepalive),
    (SocketIo.setReuseaddr, SocketIo.reuseaddr), (SocketIo.setReuseport, SocketIo.reuseport),
    (SocketIo.setBroadcast, SocketIo.broadcast), (SocketIo.setKeepalive, SocketIo.keepalive),
    (SocketIo.setPasscred, SocketIo.passcred)]

theorem optWith_setBool {test : Int → Bool} (htest1 : test 1 = true) (htest0 : test 0 = false)
    {keep : Int → Int} (h0 : keep 0 = 0) (h1 : keep 1 = 1) (level optname : Nat) (enable : Bool)
    (setsockopt : SetSockOpt → SysCall) (opts : SockOpts) :
    optWith test level optname
        (opts.set keep
          (setOptWith level optname (if enable then 1 else 0) setsockopt).1).getsockopt =
      .ok enable := by
  rw [optWith_set]
  cases enable
  · rw [if_neg Bool.false_ne_true, h0, htest0]
  · rw [if_pos rfl, h1, htest1]

/-- Every boolean getter of either class reads back what its setter set, for every kernel that
keeps `0` and `1` as they are, Linux's `valbool` among them. -/
theorem boolOptions_roundTrip {keep : Int → Int} (h0 : keep 0 = 0) (h1 : keep 1 = 1)
    (enable : Bool) (setsockopt : SetSockOpt → SysCall) (opts : SockOpts) :
    ∀ p ∈ boolOptions,
      p.2 (opts.set keep (p.1 enable setsockopt).1).getsockopt = .ok enable := by
  intro p hp
  simp only [boolOptions, List.mem_cons, List.mem_nil_iff, or_false] at hp
  rcases hp with rfl | rfl | rfl | rfl | rfl | rfl | rfl | rfl | rfl <;> dsimp only <;>
    refine optWith_setBool ?_ ?_ h0 h1 _ _ enable setsockopt opts <;> rfl

/-- `Socket`'s getters test `optval == 1` where `SocketIO`'s test `optval != 0`: for one option
the two agree exactly when `getsockopt` fails or reports `0` or `1`. -/
theorem optWith_beq_one_eq_bne_zero_iff (level optname : Nat) (getsockopt : GetSockOptKernel) :
    optWith (· == 1) level optname getsockopt = optWith (· != 0) level optname getsockopt ↔
      (getsockopt level optname).1.ret = -1 ∨ (getsockopt level optname).2 = 0 ∨
        (getsockopt level optname).2 = 1 := by
  simp only [optWith]
  obtain ⟨ret, optval⟩ := getsockopt level optname
  cases ret with
  | err errno => simp [getSockOpt]
  | ok ret =>
    simp only [getSockOpt, SysCall.check_ok, Except.ok.injEq]
    by_cases h0 : optval = 0 <;> by_cases h1 : optval = 1 <;>
      simp [h0, h1, SysCall.ret, bne, beq_eq_decide]

def sharedBoolGetters :
    List ((Nat × Nat) × (GetSockOptKernel → Result Bool) ×
      (GetSockOptKernel → Result Bool)) :=
  [((SOL_SOCKET, SO_REUSEADDR), Socket.reuseaddr, SocketIo.reuseaddr),
    ((SOL_SOCKET, SO_REUSEPORT), Socket.reuseport, SocketIo.reuseport),
    ((SOL_SOCKET, SO_BROADCAST), Socket.broadcast, SocketIo.broadcast),
    ((SOL_SOCKET, SO_KEEPALIVE), Socket.keepalive, SocketIo.keepalive)]

/-- For every option both classes have, their getters agree exactly when `getsockopt` fails or
reports `0` or `1`, which is all Linux reports for these options. -/
theorem sharedBoolGetters_eq_iff (getsockopt : GetSockOptKernel) :
    ∀ g ∈ sharedBoolGetters, g.2.1 getsockopt = g.2.2 getsockopt ↔
      (getsockopt g.1.1 g.1.2).1.ret = -1 ∨ (getsockopt g.1.1 g.1.2).2 = 0 ∨
        (getsockopt g.1.1 g.1.2).2 = 1 := by
  intro g hg
  simp only [sharedBoolGetters, List.mem_cons, List.mem_nil_iff, or_false] at hg
  rcases hg with rfl | rfl | rfl | rfl <;> exact optWith_beq_one_eq_bne_zero_iff _ _ getsockopt

theorem sharedBoolGetters_eq_iff_reuseaddr :
    ((SOL_SOCKET, SO_REUSEADDR), Socket.reuseaddr, SocketIo.reuseaddr) ∈ sharedBoolGetters ∧
      (Socket.reuseaddr (fun _ _ ↦ (.ok 0, 2)) = SocketIo.reuseaddr (fun _ _ ↦ (.ok 0, 2)) ↔
        (SysCall.ok 0).ret = -1 ∨ (2 : Int) = 0 ∨ (2 : Int) = 1) :=
  ⟨List.mem_cons_self _ _,
    sharedBoolGetters_eq_iff (fun _ _ ↦ (.ok 0, 2)) _ (List.mem_cons_self _ _)⟩

example : Socket.reuseaddr (fun _ _ ↦ (.ok 0, 2)) = .ok false ∧
    SocketIo.reuseaddr (fun _ _ ↦ (.ok 0, 2)) = .ok true := by
  decide

theorem toUInt32_toCInt {x : Nat} (hx : x < 2 ^ 32) : toUInt32 (toCInt x) = x := by
  rw [toUInt32, toCInt, Int.bmod_def]
  split <;> omega

theorem toSizeT_eq {x : Int} (hx : -2 ^ 31 ≤ x ∧ x < 2 ^ 31) :
    (toSizeT x : Int) = if 0 ≤ x then x else 2 ^ 64 + x := by
  rw [toSizeT]
  split <;> omega

/-- The TTL both classes set is the TTL they read back from a kernel that keeps it. -/
theorem ttl_setTtl {ttl : Nat} (h : ttl < 2 ^ 32) (setsockopt : SetSockOpt → SysCall)
    (opts : SockOpts) :
    Socket.ttl (opts.set id (Socket.setTtl ttl setsockopt).1).getsockopt = .ok ttl ∧
      SocketIo.ttl (opts.set id (SocketIo.setTtl ttl setsockopt).1).getsockopt = .ok ttl := by
  have h : (.ok (toUInt32 (id (toCInt ttl))) : Result Nat) = .ok ttl := by
    rw [id, toUInt32_toCInt h]
  exact ⟨(optWith_set _ _ _ _ _ _ _).trans h, (optWith_set _ _ _ _ _ _ _).trans h⟩

end Zedio.Net
