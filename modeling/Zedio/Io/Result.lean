import Mathlib.Logic.Basic

/-!
# Results of kernel operations

Every operation of the library ends in a `Result<T>`, that is
`std::expected<T, std::error_code>`. A synchronous system call reports failure by returning `-1`
and leaving the code in `errno`; an operation submitted to `io_uring` receives one signed raw
result, negative on failure. This module fixes both conventions once, together with the uniform
`await_resume` rule of the operation descriptors.

The error-code constructor `make_sys_error` lives in a header that is not part of the sources;
it is modelled from the spec.
-/

namespace Zedio

/-- `EINTR` and `EBADF` in the Linux numbering. -/
def EINTR : Int := 4

def EBADF : Int := 9

structure SysError where
  value : Int
  deriving DecidableEq, Repr

/-- Modelled from the spec: `make_sys_error` (zedio/common/error.hpp) turns a kernel error
number into "a system error code" of that value. -/
def makeSysError (code : Int) : SysError := ⟨code⟩

abbrev Result (α : Type) := Except SysError α

instance decEqExcept {ε α : Type} [DecidableEq ε] [DecidableEq α] : DecidableEq (Except ε α)
  | .ok a, .ok b => decidable_of_iff (a = b) ⟨fun h ↦ h ▸ rfl, Except.ok.inj⟩
  | .error a, .error b => decidable_of_iff (a = b) ⟨fun h ↦ h ▸ rfl, Except.error.inj⟩
  | .ok _, .error _ => isFalse Except.noConfusion
  | .error _, .ok _ => isFalse Except.noConfusion

/-- The kernel's answer to a system call that returns a non-negative number on success
(`::socket`, `::fcntl`): that number, or failure with an `errno` value. -/
inductive SysCall where
  | ok (ret : Nat)
  | err (errno : Nat)
  deriving DecidableEq, Repr

namespace SysCall

def ret : SysCall → Int
  | ok ret => ret
  | err _ => -1

def errno : SysCall → Int
  | ok _ => 0
  | err errno => errno

@[simp]
theorem ret_eq_neg_one_iff (call : SysCall) : call.ret = -1 ↔ ∃ errno, call = err errno := by
  cases call <;> simp [ret]

theorem ret_nonneg {call : SysCall} (h : call.ret ≠ -1) : 0 ≤ call.ret := by
  cases call with
  | ok ret => exact Int.ofNat_nonneg ret
  | err => exact absurd rfl h

/-- The tail of every call the library returns as `Result<void>` (`set_sock_opt`,
`get_sock_opt`, `bind`, `listen`): the error in `errno` after a `-1`, success otherwise. -/
def check (call : SysCall) : Result Unit :=
  if call.ret = -1 then .error (makeSysError call.errno) else .ok ()

@[simp]
theorem check_ok (ret : Nat) : (ok ret).check = .ok () :=
  if_neg (by simp only [SysCall.ret]; omega)

@[simp]
theorem check_err (errno : Nat) : (err errno).check = .error (makeSysError errno) := rfl

end SysCall

namespace Io

/-- The `await_resume` of an operation descriptor: a non-negative raw result `cb_.result_`
is the success `onSuccess result`, a negative one the error whose code is its negation. -/
def awaitResumeWith {α : Type} (onSuccess : Int → α) (result : Int) : Result α :=
  if result ≥ 0 then .ok (onSuccess result) else .error (makeSysError (-result))

/-- `Fsetxattr::await_resume`: its success is `return {}`, a value-initialised `std::size_t`. -/
def Fsetxattr.awaitResume (result : Int) : Result Nat :=
  awaitResumeWith (fun _ ↦ 0) result

section

variable {α : Type} (onSuccess : Int → α)

@[simp]
theorem awaitResumeWith_of_nonneg {result : Int} (h : 0 ≤ result) :
    awaitResumeWith onSuccess result = .ok (onSuccess result) := if_pos h

@[simp]
theorem awaitResumeWith_of_neg {result : Int} (h : result < 0) :
    awaitResumeWith onSuccess result = .error (makeSysError (-result)) :=
  if_neg (Int.not_le.mpr h)

theorem awaitResumeWith_eq_error_iff (result : Int) (e : SysError) :
    awaitResumeWith onSuccess result = .error e ↔ result < 0 ∧ e = makeSysError (-result) := by
  by_cases h : 0 ≤ result
  · simp [h, Int.not_lt.mpr h]
  · simp [Int.not_le.mp h, eq_comm]

end

end Io

end Zedio
