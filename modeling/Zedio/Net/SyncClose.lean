import Zedio.Io.Result

/-!
# `Socket::sync_close`

The destructor and the move assignment of `Socket` release a held descriptor through
`sync_close`, a `do`-`while` loop around `::close` with a counter of three retries. The loop
condition compares the *return value* of `::close` with `EINTR`. Since `::close` returns `0` or
`-1`, that comparison never holds: whatever the kernel answers, `sync_close` calls `::close`
exactly once, and it logs an error exactly when that one call failed.

The socket-ownership model counts every `::close` call as a close of the held descriptor; the
count proved here is what keeps that model free of double closes.
-/

namespace Zedio.Net.Socket

/-- The kernel's answer to one `::close` call: `0`, or `-1` with an `errno` value. -/
inductive CloseResult where
  | ok
  | err (errno : Int)
  deriving DecidableEq, Repr

def CloseResult.ret : CloseResult → Int
  | .ok => 0
  | .err _ => -1

theorem CloseResult.ret_ne_eintr (result : CloseResult) : result.ret ≠ EINTR := by
  cases result <;> simp [CloseResult.ret, EINTR]

/-- What one run of `sync_close` did: how many times it called `::close`, and whether it
reached `LOG_ERROR`. -/
structure SyncClose where
  calls : Nat
  logged : Bool
  deriving DecidableEq, Repr

/-- The loop `do { if (ret = ::close(fd); ret == 0) return; } while (ret == EINTR && cnt--)`,
entered for the `k`-th call with the counter at `cnt`; `close k` answers that call. With the
counter at `0` the post-decrement yields `0`, so the loop ends there even on `EINTR`. -/
def syncCloseLoop (close : Nat → CloseResult) (k : Nat) : Nat → SyncClose
  | 0 => if (close k).ret = 0 then ⟨k + 1, false⟩ else ⟨k + 1, true⟩
  | cnt + 1 =>
    if (close k).ret = 0 then ⟨k + 1, false⟩
    else if (close k).ret = EINTR then syncCloseLoop close (k + 1) cnt
    else ⟨k + 1, true⟩

def syncClose (close : Nat → CloseResult) : SyncClose :=
  syncCloseLoop close 0 3

/-- The loop body runs once: the retry condition is false after every answer of `::close`. -/
theorem syncCloseLoop_eq (close : Nat → CloseResult) (k cnt : Nat) :
    syncCloseLoop close k cnt = ⟨k + 1, decide ((close k).ret ≠ 0)⟩ := by
  cases cnt <;> by_cases h : (close k).ret = 0 <;>
    simp [syncCloseLoop, h, CloseResult.ret_ne_eintr]

theorem syncClose_calls (close : Nat → CloseResult) : (syncClose close).calls = 1 := by
  simp [syncClose, syncCloseLoop_eq]

theorem syncClose_logged (close : Nat → CloseResult) :
    (syncClose close).logged = decide (close 0 ≠ .ok) := by
  cases h : close 0 <;> simp [syncClose, syncCloseLoop_eq, h, CloseResult.ret]

/-- A first call interrupted by a signal is not retried: one call, then `LOG_ERROR`. -/
theorem syncClose_interrupted_once :
    syncClose (fun k ↦ if k = 0 then .err EINTR else .ok) = ⟨1, true⟩ := by
  decide

end Zedio.Net.Socket
