import Zedio.Io.Result

/-!
# The status flags behind `set_nodelay` and `set_nonblocking`

`Socket::set_nodelay` and `Socket::set_nonblocking` read the file status flags with
`fcntl(F_GETFL)`, set or clear one bit of the word and write it back with `fcntl(F_SETFL)`; the
getters `nodelay` and `nonblocking` test that bit. The two pairs differ only in the bit,
`O_NDELAY` and `O_NONBLOCK`, and on Linux `O_NDELAY` is defined as `O_NONBLOCK`. So the pairs are
one setting under two names: each getter reads back what the last of the two setters wrote, and
`set_nodelay(true)` puts the socket into non-blocking mode.

The kernel side follows Linux: the flag word of an open file description has its sign bit clear,
`F_SETFL` replaces only the bits of `SETFL_MASK`, and `fcntl` on a descriptor that is not open
fails with `EBADF`.
-/

namespace Zedio.Net.Socket

/-- Status flags of `<fcntl.h>` (Linux, x86-64). `O_NDELAY` is `O_NONBLOCK`. -/
def O_NONBLOCK : BitVec 32 := 0o4000#32

def O_NDELAY : BitVec 32 := O_NONBLOCK

def O_APPEND : BitVec 32 := 0o2000#32

def FASYNC : BitVec 32 := 0o20000#32

def O_DIRECT : BitVec 32 := 0o40000#32

def O_NOATIME : BitVec 32 := 0o1000000#32

/-- The bits `F_SETFL` may change (`fs/fcntl.c`). -/
def SETFL_MASK : BitVec 32 :=
  O_APPEND ||| O_NONBLOCK ||| O_NDELAY ||| FASYNC ||| O_DIRECT ||| O_NOATIME

theorem O_NONBLOCK_eq_twoPow : O_NONBLOCK = BitVec.twoPow 32 11 := by decide

/-- An open file description, by its status flags. -/
structure FileDescription where
  flags : BitVec 32
  msb_flags : flags.msb = false

/-- What `F_SETFL` makes of the flag word: the bits of `SETFL_MASK` from `flags`, the others
kept. -/
def FileDescription.setfl (file : FileDescription) (flags : BitVec 32) : FileDescription :=
  ⟨(flags &&& SETFL_MASK) ||| (file.flags &&& ~~~SETFL_MASK), by
    have : SETFL_MASK.msb = false := by decide
    simp [file.msb_flags, this]⟩

/-- `::fcntl(fd, F_GETFL, 0)` on a descriptor whose open file description is `file` (`none` when
the descriptor is not open): the flag word, or `-1` with `errno = EBADF`. -/
def getfl : Option FileDescription → BitVec 32 × Int
  | some file => (file.flags, 0)
  | none => (-1, EBADF)

/-- `::fcntl(fd, F_SETFL, flags)`: `0`, or `-1` with `errno = EBADF`. -/
def setfl : Option FileDescription → BitVec 32 → Option FileDescription × BitVec 32 × Int
  | some file, flags => (some (file.setfl flags), 0, 0)
  | none, _ => (none, -1, EBADF)

/-- The body shared by `set_nodelay` and `set_nonblocking`, for the status bit `bit`. -/
def setStatusFlag (bit : BitVec 32) (enable : Bool) (file : Option FileDescription) :
    Option FileDescription × Result Unit :=
  let flags := (getfl file).1
  let flags := if enable then flags ||| bit else flags &&& ~~~bit
  let (file, ret, errno) := setfl file flags
  if ret = -1 then (file, .error (makeSysError errno)) else (file, .ok ())

def statusFlag (bit : BitVec 32) (file : Option FileDescription) : Result Bool :=
  let (flags, errno) := getfl file
  if flags = -1 then .error (makeSysError errno) else .ok (flags &&& bit ≠ 0)

def setNodelay (enable : Bool) : Option FileDescription → Option FileDescription × Result Unit :=
  setStatusFlag O_NDELAY enable

def nodelay : Option FileDescription → Result Bool := statusFlag O_NDELAY

def setNonblocking (status : Bool) :
    Option FileDescription → Option FileDescription × Result Unit :=
  setStatusFlag O_NONBLOCK status

def nonblocking : Option FileDescription → Result Bool := statusFlag O_NONBLOCK

/-! ## One status bit -/

theorem FileDescription.setfl_flags (file : FileDescription) {flags : BitVec 32}
    (h : flags &&& ~~~SETFL_MASK = file.flags &&& ~~~SETFL_MASK) :
    (file.setfl flags).flags = flags := by
  ext i
  have hi := congrArg (BitVec.getLsbD · i) h
  simp only [BitVec.getLsbD_and, BitVec.getLsbD_not, i.isLt, decide_True, Bool.true_and] at hi
  simp only [FileDescription.setfl, BitVec.getLsbD_or, BitVec.getLsbD_and, BitVec.getLsbD_not,
    i.isLt, decide_True, Bool.true_and]
  cases hm : SETFL_MASK.getLsbD i <;> simp_all

theorem FileDescription.flags_ne_neg_one (file : FileDescription) : file.flags ≠ -1 := by
  intro h
  have := file.msb_flags
  rw [h] at this
  exact absurd this (by decide)

theorem statusFlag_some (bit : BitVec 32) (file : FileDescription) :
    statusFlag bit (some file) = .ok (file.flags &&& bit ≠ 0) := by
  simp only [statusFlag, getfl, if_neg file.flags_ne_neg_one]

section Bit

variable {k : Nat} (hk : k < 32) (hmask : SETFL_MASK.getLsbD k = true)
include hk hmask

theorem setBit_and_not_mask (enable : Bool) (flags : BitVec 32) :
    (if enable then flags ||| BitVec.twoPow 32 k else flags &&& ~~~BitVec.twoPow 32 k) &&&
      ~~~SETFL_MASK = flags &&& ~~~SETFL_MASK := by
  ext i
  by_cases hik : k = i.val
  · subst hik
    cases enable <;> simp [hmask]
  · cases enable <;> simp [hik]

/-- Setting or clearing one bit of `SETFL_MASK` succeeds and changes that bit only. -/
theorem setStatusFlag_some (enable : Bool) (file : FileDescription) :
    (setStatusFlag (BitVec.twoPow 32 k) enable (some file)).1.map FileDescription.flags =
        some (if enable then file.flags ||| BitVec.twoPow 32 k
          else file.flags &&& ~~~BitVec.twoPow 32 k) ∧
      (setStatusFlag (BitVec.twoPow 32 k) enable (some file)).2 = .ok () := by
  refine ⟨?_, by simp [setStatusFlag, getfl, setfl]⟩
  simp only [setStatusFlag, getfl, setfl, if_neg (show (0 : BitVec 32) ≠ -1 by decide),
    Option.map_some']
  rw [FileDescription.setfl_flags file (setBit_and_not_mask hk hmask enable file.flags)]

/-- The getter reads back what the setter wrote. -/
theorem statusFlag_setStatusFlag (enable : Bool) (file : FileDescription) :
    statusFlag (BitVec.twoPow 32 k) (setStatusFlag (BitVec.twoPow 32 k) enable (some file)).1 =
      .ok enable := by
  obtain ⟨file', hfile', hflags'⟩ :=
    Option.map_eq_some'.mp (setStatusFlag_some hk hmask enable file).1
  have hbit : BitVec.twoPow 32 k ≠ 0#32 := fun h ↦ by
    simpa [hk] using congrArg (BitVec.getLsbD · k) h
  rw [hfile', statusFlag_some, hflags', BitVec.and_twoPow]
  cases enable <;> simp [hbit, hk]

end Bit

theorem setStatusFlag_none (bit : BitVec 32) (enable : Bool) :
    setStatusFlag bit enable none = (none, .error (makeSysError EBADF)) := by
  simp [setStatusFlag, getfl, setfl]

theorem statusFlag_none (bit : BitVec 32) : statusFlag bit none = .error (makeSysError EBADF) := by
  simp [statusFlag, getfl]

/-! ## `nodelay` and `nonblocking` -/

theorem SETFL_MASK_getLsbD_11 : SETFL_MASK.getLsbD 11 = true := by decide

theorem nonblocking_setNonblocking (status : Bool) (file : FileDescription) :
    nonblocking (setNonblocking status (some file)).1 = .ok status := by
  rw [nonblocking, setNonblocking, O_NONBLOCK_eq_twoPow]
  exact statusFlag_setStatusFlag (by decide) SETFL_MASK_getLsbD_11 status file

theorem nodelay_setNodelay (enable : Bool) (file : FileDescription) :
    nodelay (setNodelay enable (some file)).1 = .ok enable :=
  nonblocking_setNonblocking enable file

theorem nonblocking_setNodelay (enable : Bool) (file : FileDescription) :
    nonblocking (setNodelay enable (some file)).1 = .ok enable :=
  nonblocking_setNonblocking enable file

/-- A blocking socket, flags `O_RDWR`, is non-blocking after `set_nodelay(true)`. -/
theorem setNodelay_makes_nonblocking :
    nonblocking (some ⟨2#32, rfl⟩) = .ok false ∧
      nonblocking (setNodelay true (some ⟨2#32, rfl⟩)).1 = .ok true :=
  ⟨by decide, nonblocking_setNodelay true _⟩

/-! ## Runs of the setters -/

/-- A call of `set_nodelay` or `set_nonblocking`, with its argument. -/
inductive FlagCall where
  | setNodelay (enable : Bool)
  | setNonblocking (status : Bool)
  deriving DecidableEq, Repr

def FlagCall.value : FlagCall → Bool
  | setNodelay enable => enable
  | setNonblocking status => status

def FlagCall.apply : FlagCall → Option FileDescription → Option FileDescription × Result Unit
  | setNodelay enable => Socket.setNodelay enable
  | setNonblocking status => Socket.setNonblocking status

/-- The calls made one after another on one descriptor: its description after them, and what
each call returned. -/
def runFlagCalls :
    Option FileDescription → List FlagCall → Option FileDescription × List (Result Unit)
  | file, [] => (file, [])
  | file, call :: calls =>
    let (file, ret) := call.apply file
    let (file, rets) := runFlagCalls file calls
    (file, ret :: rets)

theorem setOrClear_and_not_twoPow (enable : Bool) (flags : BitVec 32) (k : Nat) :
    (if enable then flags ||| BitVec.twoPow 32 k else flags &&& ~~~BitVec.twoPow 32 k) &&&
      ~~~BitVec.twoPow 32 k = flags &&& ~~~BitVec.twoPow 32 k := by
  ext i
  by_cases hik : k = i.val <;> cases enable <;> simp [hik]

theorem FlagCall.apply_eq (call : FlagCall) :
    call.apply = setStatusFlag O_NONBLOCK call.value := by
  cases call <;> rfl

/-- Both setters set or clear `O_NONBLOCK` of an open description and succeed. -/
theorem FlagCall.apply_some (call : FlagCall) (file : FileDescription) :
    ∃ file', call.apply (some file) = (some file', .ok ()) ∧
      file'.flags &&& ~~~O_NONBLOCK = file.flags &&& ~~~O_NONBLOCK ∧
      (file'.flags &&& O_NONBLOCK ≠ 0 : Bool) = call.value := by
  obtain ⟨hmap, hret⟩ :=
    setStatusFlag_some (k := 11) (by decide) SETFL_MASK_getLsbD_11 call.value file
  obtain ⟨file', hfile', hflags⟩ := Option.map_eq_some'.mp hmap
  have hread := statusFlag_setStatusFlag (k := 11) (by decide) SETFL_MASK_getLsbD_11 call.value file
  rw [hfile', statusFlag_some, Except.ok.injEq] at hread
  rw [← O_NONBLOCK_eq_twoPow] at hfile' hret hflags hread
  refine ⟨file', by rw [call.apply_eq, ← hfile', ← hret], ?_, hread⟩
  rw [hflags, O_NONBLOCK_eq_twoPow, setOrClear_and_not_twoPow]

theorem runFlagCalls_none (calls : List FlagCall) :
    runFlagCalls none calls = (none, calls.map fun _ ↦ .error (makeSysError EBADF)) := by
  induction calls with
  | nil => rfl
  | cons call calls ih =>
    have : call.apply none = (none, .error (makeSysError EBADF)) := by
      rw [call.apply_eq, setStatusFlag_none]
    simp [runFlagCalls, this, ih]

/-- On an open description, every run of `set_nodelay` and `set_nonblocking` calls succeeds call
by call and changes no status flag but `O_NONBLOCK`, and after it `nodelay` and `nonblocking`
both report the value of the last call, or the flag as it was when there was none: the two
setters are one setting, whichever is called last decides it. -/
theorem runFlagCalls_some (file : FileDescription) (calls : List FlagCall) :
    ∃ file', runFlagCalls (some file) calls = (some file', calls.map fun _ ↦ .ok ()) ∧
      file'.flags &&& ~~~O_NONBLOCK = file.flags &&& ~~~O_NONBLOCK ∧
      nodelay (some file') =
        .ok ((calls.map FlagCall.value).getLastD (file.flags &&& O_NONBLOCK ≠ 0 : Bool)) ∧
      nonblocking (some file') =
        .ok ((calls.map FlagCall.value).getLastD (file.flags &&& O_NONBLOCK ≠ 0 : Bool)) := by
  induction calls generalizing file with
  | nil => exact ⟨file, rfl, rfl, statusFlag_some _ _, statusFlag_some _ _⟩
  | cons call calls ih =>
    obtain ⟨file₁, hstep, hother₁, hvalue₁⟩ := call.apply_some file
    obtain ⟨file', hrun, hother, hnodelay, hnonblocking⟩ := ih file₁
    rw [hvalue₁] at hnodelay hnonblocking
    refine ⟨file', by simp [runFlagCalls, hstep, hrun], hother.trans hother₁, ?_⟩
    rw [List.map_cons, List.getLastD_cons]
    exact ⟨hnodelay, hnonblocking⟩

end Zedio.Net.Socket
