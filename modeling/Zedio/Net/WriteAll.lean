import Zedio.Io.Result
import Mathlib.Data.List.Chain

/-!
# `Socket::write_all`

`write_all` writes a whole buffer by repeated `write` calls, each for the rest of the buffer after
the bytes written so far, until nothing remains or a call fails. The kernel may write fewer bytes
than a call asks for, never more; the model gives it that freedom and no other, as one answer per
call, indexed by the call.

Each call asks for the rest of the buffer, the calls cover the buffer from its start without gap
or overlap, the first error ends the loop and is returned unchanged, and a successful return
wrote every byte once. The loop has no bound of its own: a call that reports zero bytes is issued
again as it was, so `write_all` returns after at most `n` calls only when every successful call
makes progress.

The model runs the loop for a bounded number of iterations. More iterations extend a run and
change none of its calls, and once it has returned they change nothing.
-/

namespace Zedio.Net.Socket

/-- One call `write(buf.data() + offset, len)` issued by `write_all`. -/
structure WriteCall where
  offset : Nat
  len : Nat
  deriving DecidableEq, Repr

/-- The kernel's answers to the successive `write` calls: the `k`-th call gets an error or a
count of at most the length it asked for. -/
abbrev WriteKernel := (k : Nat) → (call : WriteCall) → Result (Fin (call.len + 1))

/-- A call of `write_all` and what it returned. -/
structure IssuedWrite where
  call : WriteCall
  result : Result Nat
  deriving DecidableEq, Repr

/-- The loop of `write_all` from its head, with the locals `has_written_bytes` and
`remaining_bytes` and with `k` the index of the next call, for at most `fuel` iterations. It
gives the calls issued with their results, and the coroutine's result once it has returned. -/
def writeAllLoop (write : WriteKernel) :
    (fuel k hasWrittenBytes remainingBytes : Nat) → List IssuedWrite × Option (Result Unit)
  | 0, _, _, _ => ([], none)
  | fuel + 1, k, hasWrittenBytes, remainingBytes =>
    if remainingBytes > 0 then
      let call : WriteCall := ⟨hasWrittenBytes, remainingBytes⟩
      match write k call with
      | .error e => ([⟨call, .error e⟩], some (.error e))
      | .ok r =>
        let rest := writeAllLoop write fuel (k + 1) (hasWrittenBytes + r) (remainingBytes - r)
        (⟨call, .ok r⟩ :: rest.1, rest.2)
    else ([], some (.ok ()))

/-- `co_await socket.write_all(buf)` for a buffer of `n` bytes, for `fuel` iterations. -/
def writeAll (write : WriteKernel) (n fuel : Nat) : List IssuedWrite × Option (Result Unit) :=
  writeAllLoop write fuel 0 0 n

/-- The indices of `buf` that the successful calls of a trace wrote, in order. -/
def written (trace : List IssuedWrite) : List Nat :=
  trace.flatMap fun w ↦ match w.result with
    | .ok r => List.range' w.call.offset r
    | .error _ => []

/-! ## One iteration -/

section Loop

variable (write : WriteKernel)

theorem writeAllLoop_stop (fuel k hw : Nat) :
    writeAllLoop write (fuel + 1) k hw 0 = ([], some (.ok ())) := rfl

theorem writeAllLoop_error {fuel k hw rem : Nat} (hrem : 0 < rem) {e : SysError}
    (he : write k ⟨hw, rem⟩ = .error e) :
    writeAllLoop write (fuel + 1) k hw rem =
      ([⟨⟨hw, rem⟩, .error e⟩], some (.error e)) := by
  simp [writeAllLoop, hrem, he]

theorem writeAllLoop_ok {fuel k hw rem : Nat} (hrem : 0 < rem) {r : Fin (rem + 1)}
    (hr : write k ⟨hw, rem⟩ = .ok r) :
    writeAllLoop write (fuel + 1) k hw rem =
      (⟨⟨hw, rem⟩, .ok r⟩ :: (writeAllLoop write fuel (k + 1) (hw + r) (rem - r)).1,
        (writeAllLoop write fuel (k + 1) (hw + r) (rem - r)).2) := by
  simp [writeAllLoop, hrem, hr]

/-- Each call asks for the rest of the buffer after its offset, and for at least one byte. -/
theorem writeAllLoop_call (fuel k hw rem : Nat) :
    ∀ w ∈ (writeAllLoop write fuel k hw rem).1,
      w.call.offset + w.call.len = hw + rem ∧ w.call.offset < hw + rem := by
  induction fuel, k, hw, rem using writeAllLoop.induct write with
  | case1 => simp [writeAllLoop]
  | case2 fuel k hw rem hrem call e he =>
    simpa [writeAllLoop_error write hrem he] using hrem
  | case3 fuel k hw rem hrem call r hr ih =>
    simp only [writeAllLoop_ok write hrem hr, List.mem_cons, forall_eq_or_imp]
    refine ⟨by simpa using hrem, fun w hmem ↦ ?_⟩
    have := ih w hmem
    have : (r : Nat) ≤ rem := r.is_le
    omega
  | case4 fuel k hw rem hrem => simp [writeAllLoop, hrem]

theorem writeAllLoop_head (fuel k hw rem : Nat) :
    ∀ w ∈ (writeAllLoop write fuel k hw rem).1.head?, w.call.offset = hw := by
  cases fuel with
  | zero => simp [writeAllLoop]
  | succ fuel =>
    by_cases hrem : 0 < rem
    · cases hcall : write k ⟨hw, rem⟩ with
      | error e => simp [writeAllLoop_error write hrem hcall]
      | ok r => simp [writeAllLoop_ok write hrem hcall]
    · simp [writeAllLoop, hrem]

/-- Every call but the last succeeded, and the next one starts after the bytes it wrote. -/
theorem writeAllLoop_chain (fuel k hw rem : Nat) :
    (writeAllLoop write fuel k hw rem).1.Chain'
      fun a b ↦ ∃ r, a.result = .ok r ∧ b.call.offset = a.call.offset + r := by
  induction fuel, k, hw, rem using writeAllLoop.induct write with
  | case1 => simp [writeAllLoop]
  | case2 fuel k hw rem hrem call e he => simp [writeAllLoop_error write hrem he]
  | case3 fuel k hw rem hrem call r hr ih =>
    rw [writeAllLoop_ok write hrem hr, List.chain'_cons']
    exact ⟨fun b hb ↦ ⟨r, rfl, writeAllLoop_head write _ _ _ _ b hb⟩, ih⟩
  | case4 fuel k hw rem hrem => simp [writeAllLoop, hrem]

theorem writeAllLoop_result (fuel k hw rem : Nat) :
    ∀ i, ∀ w ∈ (writeAllLoop write fuel k hw rem).1[i]?,
      w.result = (write (k + i) w.call).map Fin.val := by
  induction fuel, k, hw, rem using writeAllLoop.induct write with
  | case1 => simp [writeAllLoop]
  | case2 fuel k hw rem hrem call e he =>
    simp only [call] at he
    rw [writeAllLoop_error write hrem he]
    rintro (_ | i) w hmem <;> simp at hmem
    subst hmem
    dsimp only [Nat.add_zero]
    rw [he]
    rfl
  | case3 fuel k hw rem hrem call r hr ih =>
    simp only [call] at hr
    rw [writeAllLoop_ok write hrem hr]
    rintro (_ | i) w hmem
    · simp only [List.getElem?_cons_zero, Option.mem_def, Option.some.injEq] at hmem
      subst hmem
      dsimp only [Nat.add_zero]
      rw [hr]
      rfl
    · have := ih i w (by simpa using hmem)
      rwa [Nat.add_assoc, Nat.add_comm 1 i] at this
  | case4 fuel k hw rem hrem => simp [writeAllLoop, hrem]

/-- A successful return wrote the indices `has_written_bytes, ..., has_written_bytes +
remaining_bytes - 1`, each once and in order, by calls that all succeeded. -/
theorem writeAllLoop_ok_result (fuel k hw rem : Nat)
    (h : (writeAllLoop write fuel k hw rem).2 = some (.ok ())) :
    (∀ w ∈ (writeAllLoop write fuel k hw rem).1, ∃ r, w.result = .ok r) ∧
      written (writeAllLoop write fuel k hw rem).1 = List.range' hw rem := by
  induction fuel, k, hw, rem using writeAllLoop.induct write with
  | case1 => simp [writeAllLoop] at h
  | case2 fuel k hw rem hrem call e he => simp [writeAllLoop_error write hrem he] at h
  | case3 fuel k hw rem hrem call r hr ih =>
    rw [writeAllLoop_ok write hrem hr] at h ⊢
    obtain ⟨hok, hwritten⟩ := ih h
    have : (r : Nat) ≤ rem := r.is_le
    refine ⟨by simpa using hok, ?_⟩
    simp only [written, List.flatMap_cons] at hwritten ⊢
    rw [hwritten, List.range'_append_1, Nat.sub_add_cancel this]
  | case4 fuel k hw rem hrem => simp [writeAllLoop, Nat.eq_zero_of_not_pos hrem, written]

/-- Whatever the run's outcome, the successful calls wrote `has_written_bytes, ...,
has_written_bytes + t - 1` for some `t ≤ remaining_bytes`: each byte once, in order, and none past
the buffer. -/
theorem writeAllLoop_written (fuel k hw rem : Nat) :
    ∃ t ≤ rem, written (writeAllLoop write fuel k hw rem).1 = List.range' hw t := by
  induction fuel, k, hw, rem using writeAllLoop.induct write with
  | case1 => exact ⟨0, Nat.zero_le _, rfl⟩
  | case2 fuel k hw rem hrem call e he =>
    exact ⟨0, Nat.zero_le _, by simp [writeAllLoop_error write hrem he, written]⟩
  | case3 fuel k hw rem hrem call r hr ih =>
    obtain ⟨t, ht, hwritten⟩ := ih
    have : (r : Nat) ≤ rem := r.is_le
    refine ⟨t + r, by omega, ?_⟩
    simp only [writeAllLoop_ok write hrem hr, written, List.flatMap_cons] at hwritten ⊢
    rw [hwritten, List.range'_append_1]
  | case4 fuel k hw rem hrem => exact ⟨0, Nat.zero_le _, by simp [writeAllLoop, hrem, written]⟩

theorem writeAllLoop_error_result (fuel k hw rem : Nat) :
    ∀ w ∈ (writeAllLoop write fuel k hw rem).1.getLast?, ∀ e, w.result = .error e →
      (writeAllLoop write fuel k hw rem).2 = some (.error e) := by
  induction fuel, k, hw, rem using writeAllLoop.induct write with
  | case1 => simp [writeAllLoop]
  | case2 fuel k hw rem hrem call e he => simp [writeAllLoop_error write hrem he]
  | case3 fuel k hw rem hrem call r hr ih =>
    rw [writeAllLoop_ok write hrem hr]
    intro w hmem e he
    cases htail : (writeAllLoop write fuel (k + 1) (hw + r) (rem - r)).1 with
    | nil => simp [htail] at hmem; simp [← hmem] at he
    | cons b tail => exact ih w (by simpa [htail, List.getLast?_cons] using hmem) e he
  | case4 fuel k hw rem hrem => simp [writeAllLoop, hrem]

theorem writeAllLoop_last_of_error (fuel k hw rem : Nat) {e : SysError}
    (h : (writeAllLoop write fuel k hw rem).2 = some (.error e)) :
    ∃ w ∈ (writeAllLoop write fuel k hw rem).1.getLast?, w.result = .error e := by
  induction fuel, k, hw, rem using writeAllLoop.induct write with
  | case1 => simp [writeAllLoop] at h
  | case2 fuel k hw rem hrem call e' he =>
    rw [writeAllLoop_error write hrem he] at h ⊢
    simpa using h
  | case3 fuel k hw rem hrem call r hr ih =>
    rw [writeAllLoop_ok write hrem hr] at h ⊢
    obtain ⟨w, hmem, hres⟩ := ih h
    refine ⟨w, ?_, hres⟩
    cases htail : (writeAllLoop write fuel (k + 1) (hw + r) (rem - r)).1 with
    | nil => simp [htail] at hmem
    | cons b tail => simpa [htail, List.getLast?_cons] using hmem
  | case4 fuel k hw rem hrem => simp [writeAllLoop, hrem] at h

theorem writeAllLoop_length_of_none (fuel k hw rem : Nat)
    (h : (writeAllLoop write fuel k hw rem).2 = none) :
    (writeAllLoop write fuel k hw rem).1.length = fuel := by
  induction fuel, k, hw, rem using writeAllLoop.induct write with
  | case1 => rfl
  | case2 fuel k hw rem hrem call e he => simp [writeAllLoop_error write hrem he] at h
  | case3 fuel k hw rem hrem call r hr ih =>
    rw [writeAllLoop_ok write hrem hr] at h ⊢
    rw [List.length_cons, ih h]
  | case4 fuel k hw rem hrem => simp [writeAllLoop, hrem] at h

theorem writeAllLoop_dropLast_ok (fuel k hw rem : Nat) :
    ∀ w ∈ (writeAllLoop write fuel k hw rem).1.dropLast, ∃ r, w.result = .ok r := by
  induction fuel, k, hw, rem using writeAllLoop.induct write with
  | case1 => simp [writeAllLoop]
  | case2 fuel k hw rem hrem call e he => simp [writeAllLoop_error write hrem he]
  | case3 fuel k hw rem hrem call r hr ih =>
    rw [writeAllLoop_ok write hrem hr]
    cases htail : (writeAllLoop write fuel (k + 1) (hw + r) (rem - r)).1 with
    | nil => simp
    | cons b tail =>
      rw [htail] at ih
      simp only [List.dropLast_cons₂, List.mem_cons, forall_eq_or_imp]
      exact ⟨⟨r, rfl⟩, ih⟩
  | case4 fuel k hw rem hrem => simp [writeAllLoop, hrem]

/-- When every call the loop can issue on a buffer of `N` bytes, the rest of the buffer from an
offset below `N`, fails or writes at least one byte, the loop returns within
`remaining_bytes + 1` iterations, after at most `remaining_bytes` calls. -/
theorem writeAllLoop_returns {N : Nat} (hprog : ∀ k o, o < N → write k ⟨o, N - o⟩ ≠ .ok 0)
    (fuel k hw rem : Nat) (hN : hw + rem = N) (hfuel : rem < fuel) :
    (writeAllLoop write fuel k hw rem).2.isSome ∧
      (writeAllLoop write fuel k hw rem).1.length ≤ rem := by
  induction fuel, k, hw, rem using writeAllLoop.induct write with
  | case1 => omega
  | case2 fuel k hw rem hrem call e he => simpa [writeAllLoop_error write hrem he] using hrem
  | case3 fuel k hw rem hrem call r hr ih =>
    have hcall : N - hw = rem := by omega
    have hr0 : (r : Nat) ≠ 0 := fun h0 ↦ hprog k hw (by omega) <| by
      rw [hcall]
      exact hr.trans (congrArg Except.ok (Fin.ext (b := 0) h0))
    have : (r : Nat) ≤ rem := r.is_le
    obtain ⟨hsome, hlen⟩ := ih (by omega) (by omega)
    simp only [writeAllLoop_ok write hrem hr, List.length_cons]
    exact ⟨hsome, by omega⟩
  | case4 fuel k hw rem hrem => simp [writeAllLoop, hrem]

/-- More fuel extends the calls issued so far and changes none of them. -/
theorem writeAllLoop_extends (d fuel k hw rem : Nat) :
    (writeAllLoop write fuel k hw rem).1 <+: (writeAllLoop write (fuel + d) k hw rem).1 := by
  induction fuel, k, hw, rem using writeAllLoop.induct write with
  | case1 => exact List.nil_prefix
  | case2 fuel k hw rem hrem call e he =>
    simp only [Nat.succ_add, writeAllLoop_error write hrem he, List.prefix_refl]
  | case3 fuel k hw rem hrem call r hr ih =>
    rw [Nat.succ_add, writeAllLoop_ok write hrem hr, writeAllLoop_ok write hrem hr]
    exact List.prefix_cons_inj _ |>.mpr ih
  | case4 fuel k hw rem hrem => rw [Nat.succ_add]; simp [writeAllLoop, hrem]

/-- Once the loop has returned, more fuel changes neither its calls nor its result. -/
theorem writeAllLoop_add_fuel (d fuel k hw rem : Nat)
    (h : (writeAllLoop write fuel k hw rem).2.isSome) :
    writeAllLoop write (fuel + d) k hw rem = writeAllLoop write fuel k hw rem := by
  induction fuel, k, hw, rem using writeAllLoop.induct write with
  | case1 => simp [writeAllLoop] at h
  | case2 fuel k hw rem hrem call e he =>
    rw [Nat.succ_add, writeAllLoop_error write hrem he, writeAllLoop_error write hrem he]
  | case3 fuel k hw rem hrem call r hr ih =>
    rw [writeAllLoop_ok write hrem hr] at h
    rw [Nat.succ_add, writeAllLoop_ok write hrem hr, writeAllLoop_ok write hrem hr, ih h]
  | case4 fuel k hw rem hrem => rw [Nat.succ_add]; simp [writeAllLoop, hrem]

theorem writeAllLoop_zero_count (fuel k hw rem : Nat) (hrem : 0 < rem) :
    writeAllLoop (fun _ _ ↦ .ok 0) fuel k hw rem =
      (List.replicate fuel ⟨⟨hw, rem⟩, .ok 0⟩, none) := by
  induction fuel generalizing k with
  | zero => rfl
  | succ fuel ih =>
    simp [writeAllLoop_ok (fun _ _ ↦ .ok 0) hrem (r := 0) rfl, ih, List.replicate_succ]

end Loop

/-! ## `write_all` on a whole buffer -/

/-- `write_all` on a buffer of `n` bytes, for every sequence of kernel answers and every number
of iterations: each call asks for the rest of the buffer, the first at offset `0` and each next
one after the bytes the previous one wrote, and none once everything is written; the `i`-th call
gets the kernel's `i`-th answer; a run that has not returned made one call per iteration; a
successful return wrote `0, ..., n - 1` once each and in order, by calls that all succeeded; an
error result is the error of the last call, and a failed call is the last one, whose error is the
result. -/
theorem writeAll_spec (write : WriteKernel) (n fuel : Nat) :
    (∀ w ∈ (writeAll write n fuel).1, w.call.offset + w.call.len = n ∧ w.call.offset < n) ∧
    (∀ w ∈ (writeAll write n fuel).1.head?, w.call.offset = 0) ∧
    (writeAll write n fuel).1.Chain'
      (fun a b ↦ ∃ r, a.result = .ok r ∧ b.call.offset = a.call.offset + r) ∧
    (∀ i, ∀ w ∈ (writeAll write n fuel).1[i]?, w.result = (write i w.call).map Fin.val) ∧
    ((writeAll write n fuel).2 = none → (writeAll write n fuel).1.length = fuel) ∧
    ((writeAll write n fuel).2 = some (.ok ()) →
      (∀ w ∈ (writeAll write n fuel).1, ∃ r, w.result = .ok r) ∧
        written (writeAll write n fuel).1 = List.range n) ∧
    (∀ e, (writeAll write n fuel).2 = some (.error e) →
      ∃ w ∈ (writeAll write n fuel).1.getLast?, w.result = .error e) ∧
    (∀ w ∈ (writeAll write n fuel).1.getLast?, ∀ e, w.result = .error e →
      (writeAll write n fuel).2 = some (.error e)) :=
  ⟨by simpa using writeAllLoop_call write fuel 0 0 n, writeAllLoop_head write fuel 0 0 n,
    writeAllLoop_chain write fuel 0 0 n, by simpa using writeAllLoop_result write fuel 0 0 n,
    writeAllLoop_length_of_none write fuel 0 0 n,
    fun h ↦ by simpa [List.range_eq_range'] using writeAllLoop_ok_result write fuel 0 0 n h,
    fun _ ↦ writeAllLoop_last_of_error write fuel 0 0 n, writeAllLoop_error_result write fuel 0 0 n⟩

/-- A kernel that answers every call with zero bytes: `write_all` on one byte never returns, and
it issues the same call again and again. -/
theorem writeAll_zero_count_loops (fuel : Nat) :
    writeAll (fun _ _ ↦ .ok 0) 1 fuel = (List.replicate fuel ⟨⟨0, 1⟩, .ok 0⟩, none) :=
  writeAllLoop_zero_count fuel 0 0 1 Nat.one_pos

/-- On one byte, three calls that each report zero bytes, and `write_all` has not returned. -/
theorem writeAll_zero_count_three_calls :
    writeAll (fun _ _ ↦ .ok 0) 1 3 =
      ([⟨⟨0, 1⟩, .ok 0⟩, ⟨⟨0, 1⟩, .ok 0⟩, ⟨⟨0, 1⟩, .ok 0⟩], none) :=
  writeAll_zero_count_loops 3

/-- When every call `write_all` on `n` bytes can issue, the rest of the buffer from an offset
below `n`, fails or writes at least one byte, it returns after at most `n` calls. -/
theorem writeAll_returns (write : WriteKernel) (n : Nat)
    (hprog : ∀ k o, o < n → write k ⟨o, n - o⟩ ≠ .ok 0) :
    (writeAll write n (n + 1)).2.isSome ∧ (writeAll write n (n + 1)).1.length ≤ n :=
  writeAllLoop_returns write hprog (n + 1) 0 0 n (Nat.zero_add n) (Nat.lt_succ_self n)

theorem last_ne_zero_of_lt {n o : Nat} (ho : o < n) :
    (.ok (Fin.last (n - o)) : Result (Fin (n - o + 1))) ≠ .ok 0 := fun heq ↦ by
  simp [Fin.ext_iff] at heq
  omega

theorem writeAll_returns_full_writes :
    (∀ o, o < 3 → (.ok (Fin.last (3 - o)) : Result (Fin (3 - o + 1))) ≠ .ok 0) ∧
    (writeAll (fun _ call ↦ .ok (Fin.last call.len)) 3 4).2.isSome ∧
      (writeAll (fun _ call ↦ .ok (Fin.last call.len)) 3 4).1.length ≤ 3 :=
  ⟨fun _ ↦ last_ne_zero_of_lt,
    writeAll_returns (fun _ call ↦ .ok (Fin.last call.len)) 3 fun _ _ ↦ last_ne_zero_of_lt⟩

/-- When `write_all` returns an error, that error is what its last call got and every earlier
call succeeded: the error returned is the first one the kernel gave. -/
theorem writeAll_error_last (write : WriteKernel) (n fuel : Nat) {e : SysError}
    (h : (writeAll write n fuel).2 = some (.error e)) :
    (∃ w ∈ (writeAll write n fuel).1.getLast?, w.result = .error e) ∧
      ∀ w ∈ (writeAll write n fuel).1.dropLast, ∃ r, w.result = .ok r :=
  ⟨writeAllLoop_last_of_error write fuel 0 0 n h, writeAllLoop_dropLast_ok write fuel 0 0 n⟩

theorem writeAll_error_last_second_call :
    (writeAll (fun k _ ↦ if k = 0 then .ok 1 else .error ⟨5⟩) 2 3).2 = some (.error ⟨5⟩) ∧
      (∃ w ∈ (writeAll (fun k _ ↦ if k = 0 then .ok 1 else .error ⟨5⟩) 2 3).1.getLast?,
        w.result = .error ⟨5⟩) ∧
      ∀ w ∈ (writeAll (fun k _ ↦ if k = 0 then .ok 1 else .error ⟨5⟩) 2 3).1.dropLast,
        ∃ r, w.result = .ok r :=
  have h : (writeAll (fun k _ ↦ if k = 0 then .ok 1 else .error ⟨5⟩) 2 3).2 =
      some (.error ⟨5⟩) := rfl
  ⟨h, writeAll_error_last (fun k _ ↦ if k = 0 then .ok 1 else .error ⟨5⟩) 2 3 h⟩

/-- Every run of `write_all` on `n` bytes, returned, failed or cut short, has written `0, ...,
t - 1` for some `t ≤ n`, each byte once and in order, by its successful calls: the loop never
skips, repeats or overruns a byte, and a successful return has written all `n`. -/
theorem writeAll_written_range (write : WriteKernel) (n fuel : Nat) :
    ∃ t ≤ n, written (writeAll write n fuel).1 = List.range t ∧
      ((writeAll write n fuel).2 = some (.ok ()) → t = n) := by
  obtain ⟨t, ht, hwritten⟩ := writeAllLoop_written write fuel 0 0 n
  refine ⟨t, ht, by rw [writeAll, hwritten, List.range_eq_range'], fun hok ↦ ?_⟩
  have hall := (writeAllLoop_ok_result write fuel 0 0 n hok).2
  rw [hwritten] at hall
  simpa using congrArg List.length hall

/-- More iterations extend the calls of `write_all` and change none of them, and once it has
returned they change nothing: the bound cuts a run short, it never alters it. -/
theorem writeAll_fuel_mono (write : WriteKernel) (n fuel d : Nat) :
    (writeAll write n fuel).1 <+: (writeAll write n (fuel + d)).1 ∧
      ((writeAll write n fuel).2.isSome → writeAll write n (fuel + d) = writeAll write n fuel) :=
  ⟨writeAllLoop_extends write d fuel 0 0 n, writeAllLoop_add_fuel write d fuel 0 0 n⟩

end Zedio.Net.Socket
