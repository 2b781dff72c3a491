import Zedio.Net.SyncClose
import Mathlib.Logic.Function.Iterate
import Mathlib.Tactic.SplitIfs
import Mathlib.Tactic.ByContra

/-!
# Ownership of descriptors by `Socket` objects

A `Socket` owns the descriptor in its field `fd_`, and `-1` marks a socket that owns none. The
world below holds every `Socket` object ever constructed, the kernel's table of open
descriptors, and two histories: the descriptors the sockets took over (`Socket::build`,
`Socket::from_fd`) and the closes they issued. Its step function follows the constructors, the
move operations, `close()` and the destructor of `socket.hpp` statement by statement, and a
synchronous close issues as many `::close` calls as `sync_close` makes.

Along every run: a non-negative `fd_` is open and held by one live socket only; every close
targets what its issuer held just before, an open descriptor except for `close()` on a socket
that owns none, which closes `-1`; and every descriptor taken over is still held or was closed
once, so no operation leaks one or closes one twice. An operation changes `fd_` only of the
sockets it is called on, so a socket that the rest of a run leaves alone keeps its descriptor,
open. Destroying the live sockets at the end, in any order, then closes every descriptor they
took over.

The proofs say once, per operation, what a step does, and derive each property from that. A world
packaged with its invariant cannot break it, every world a run reaches is one, and the results
about runs are read off that package.
-/

namespace Zedio.Net.Socket

/-- One operation on `Socket` objects, which are named by their ids (their order of
construction). -/
inductive Op where
  /-- `Socket::build(domain, type, protocol)`; `socket` is the kernel's answer to `::socket`. -/
  | build (socket : SysCall)
  /-- `Socket::from_fd(fd)`. -/
  | fromFd (fd : Int)
  /-- `Socket(Socket &&other)`. -/
  | moveConstruct (other : Nat)
  /-- `self = std::move(other)`; `close` answers the `::close` calls of `sync_close`. -/
  | moveAssign (self other : Nat) (close : Nat → CloseResult)
  /-- `self.close()`, with the close it returns awaited. -/
  | close (self : Nat)
  /-- `~Socket()` of `self`. -/
  | destroy (self : Nat) (close : Nat → CloseResult)

/-- The sockets an operation is called on: `self`, and `other` of a move. -/
def Op.names : Op → List Nat
  | .build _ | .fromFd _ => []
  | .moveConstruct other => [other]
  | .moveAssign self other _ => [self, other]
  | .close self | .destroy self _ => [self]

/-- The `Socket` objects, the kernel's open descriptors, and what the sockets did with them. -/
structure World where
  /-- `fd_` of every object ever constructed, by id; `none` once it is destroyed. -/
  sockets : List (Option Int)
  /-- The descriptors the kernel has open. -/
  opened : List Int
  /-- Every descriptor a socket took over, in order. -/
  acquired : List Int
  /-- Every close a socket issued, as issuer and target, in order. -/
  closes : List (Nat × Int)
  deriving DecidableEq, Repr

namespace World

/-- Before any socket exists; `opened` are the descriptors open already. -/
def init (opened : List Nat) : World :=
  ⟨[], opened.map Int.ofNat, [], []⟩

section

variable (w : World)

/-- `fd_` of the socket `s`, while it is alive. -/
def fd (s : Nat) : Option Int := w.sockets.getD s none

/-- How many live sockets hold `x`. -/
def holders (x : Int) : Nat := w.sockets.count (some x)

/-- How many closes of `x` the sockets issued. -/
def closed (x : Int) : Nat := (w.closes.map Prod.snd).count x

def setFd (s : Nat) (v : Int) : World := { w with sockets := w.sockets.set s (some v) }

def push (v : Int) : World := { w with sockets := w.sockets ++ [some v] }

/-- A new socket taking over the descriptor `v`. -/
def adopt (v : Int) : World := { w.push v with acquired := w.acquired ++ [v] }

def kill (s : Nat) : World := { w with sockets := w.sockets.set s none }

def openFd (v : Int) : World := { w with opened := v :: w.opened }

/-- One `::close(x)` issued by the socket `s`. -/
def closeCall (s : Nat) (x : Int) : World :=
  { w with opened := w.opened.filter (· ≠ x), closes := w.closes ++ [(s, x)] }

/-- `sync_close(x)` run by the socket `s`: each of its `::close` calls closes `x`. -/
def syncCloseBy (s : Nat) (x : Int) (close : Nat → CloseResult) : World :=
  (fun w ↦ closeCall w s x)^[(syncClose close).calls] w

/-- One operation; `none` when it is not allowed: an object that is not alive, `from_fd` of a
descriptor that is not open or already held, or a `::socket` answer that is already open. -/
def step : Op → Option World
  | .build socket =>
    if socket.ret ≠ -1 then
      if socket.ret ∈ w.opened then none else some ((w.openFd socket.ret).adopt socket.ret)
    else some w
  | .fromFd fd => if fd ∈ w.opened ∧ some fd ∉ w.sockets then some (w.adopt fd) else none
  | .moveConstruct other => (w.fd other).map fun x ↦ (w.push x).setFd other (-1)
  | .moveAssign self other close =>
    match w.fd self, w.fd other with
    | some x, some y =>
      let w := if x ≥ 0 then w.syncCloseBy self x close else w
      some ((w.setFd self y).setFd other (-1))
    | _, _ => none
  | .close self => (w.fd self).map fun x ↦ (w.setFd self (-1)).closeCall self x
  | .destroy self close =>
    (w.fd self).map fun x ↦ (if x ≥ 0 then w.syncCloseBy self x close else w).kill self

end

/-- A sequence of operations from `w`; `none` if one of them is not allowed. -/
def run : World → List Op → Option World
  | w, [] => some w
  | w, op :: ops => (w.step op).bind (run · ops)

/-! ## The primitive updates -/

section Updates

variable {w : World} {s t : Nat} {u v x : Int}

theorem fd_eq_some_iff : w.fd s = some x ↔ w.sockets[s]? = some (some x) := by
  simp only [fd, List.getD_eq_getElem?_getD]
  cases w.sockets[s]? <;> simp

theorem lt_of_fd_eq_some (h : w.fd s = some x) : s < w.sockets.length := by
  by_contra hs
  rw [fd_eq_some_iff, List.getElem?_eq_none (Nat.le_of_not_lt hs)] at h
  cases h

theorem getElem_of_fd_eq_some (h : w.fd s = some x) (hs : s < w.sockets.length) :
    w.sockets[s] = some x := by
  simpa [List.getElem?_eq_getElem hs] using fd_eq_some_iff.mp h

theorem fd_setFd (hs : s < w.sockets.length) :
    (w.setFd s v).fd t = if s = t then some v else w.fd t := by
  simp only [fd, setFd, List.getD_eq_getElem?_getD, List.getElem?_set, hs]
  split <;> simp

theorem fd_setFd_of_ne (h : s ≠ t) : (w.setFd s v).fd t = w.fd t := by
  simp only [fd, setFd, List.getD_eq_getElem?_getD, List.getElem?_set_ne h]

theorem fd_push : (w.push v).fd t = if t = w.sockets.length then some v else w.fd t := by
  simp only [fd, push, List.getD_eq_getElem?_getD, List.getElem?_append]
  rcases Nat.lt_trichotomy t w.sockets.length with ht | rfl | ht
  · simp [ht, Nat.ne_of_lt ht]
  · simp
  · simp only [Nat.not_lt_of_gt ht, Nat.ne_of_gt ht, List.getElem?_eq_none (Nat.le_of_lt ht),
      if_false, Option.getD_none]
    rw [List.getElem?_eq_none (by simp; omega), Option.getD_none]

theorem fd_kill : (w.kill s).fd t = if s = t then none else w.fd t := by
  simp only [fd, kill, List.getD_eq_getElem?_getD, List.getElem?_set]
  by_cases h : s = t <;> simp [h]
  split <;> simp

theorem holders_setFd (h : w.fd s = some u) (x : Int) :
    (w.setFd s v).holders x =
      w.holders x - (if u = x then 1 else 0) + (if v = x then 1 else 0) := by
  have hs := lt_of_fd_eq_some h
  simp [holders, setFd, List.count_set _ _ _ _ hs, getElem_of_fd_eq_some h hs]

theorem holders_push (x : Int) : (w.push v).holders x = w.holders x + if v = x then 1 else 0 := by
  simp [holders, push, List.count_singleton]

theorem holders_kill (h : w.fd s = some u) (x : Int) :
    (w.kill s).holders x = w.holders x - if u = x then 1 else 0 := by
  have hs := lt_of_fd_eq_some h
  simp [holders, kill, List.count_set _ _ _ _ hs, getElem_of_fd_eq_some h hs]

theorem one_le_holders (h : w.fd s = some x) : 1 ≤ w.holders x :=
  List.count_pos_iff.mpr (List.getElem?_mem (fd_eq_some_iff.mp h))

theorem closed_closeCall (y : Int) :
    (w.closeCall s x).closed y = w.closed y + if x = y then 1 else 0 := by
  simp [closed, closeCall, List.count_singleton]

theorem mem_opened_closeCall : v ∈ (w.closeCall s x).opened ↔ v ∈ w.opened ∧ v ≠ x := by
  simp [closeCall]

theorem setFd_setFd : (w.setFd s v).setFd s u = w.setFd s u := by
  simp [setFd, List.set_set]

theorem push_setFd_length : (w.push v).setFd w.sockets.length u = w.push u := by
  simp [push, setFd]

theorem kill_closeCall_setFd :
    ((w.setFd s v).closeCall s x).kill s = (w.closeCall s x).kill s := by
  simp [kill, closeCall, setFd, List.set_set]

theorem kill_setFd : (w.setFd s v).kill s = w.kill s := by
  simp [kill, setFd, List.set_set]

theorem syncCloseBy_eq (close : Nat → CloseResult) :
    w.syncCloseBy s x close = w.closeCall s x := by
  simp [syncCloseBy, syncClose_calls]

/-! Each update leaves the other parts of the world as they are. -/

@[simp] theorem fd_closeCall : (w.closeCall s x).fd = w.fd := rfl
@[simp] theorem fd_openFd : (w.openFd v).fd = w.fd := rfl
@[simp] theorem sockets_openFd : (w.openFd v).sockets = w.sockets := rfl
@[simp] theorem holders_closeCall : (w.closeCall s x).holders = w.holders := rfl
@[simp] theorem acquired_closeCall : (w.closeCall s x).acquired = w.acquired := rfl
@[simp] theorem closed_setFd : (w.setFd s v).closed = w.closed := rfl
@[simp] theorem acquired_setFd : (w.setFd s v).acquired = w.acquired := rfl
@[simp] theorem fd_adopt : (w.adopt v).fd = (w.push v).fd := rfl
@[simp] theorem holders_adopt : (w.adopt v).holders = (w.push v).holders := rfl
@[simp] theorem closed_adopt : (w.adopt v).closed = w.closed := rfl
@[simp] theorem acquired_adopt : (w.adopt v).acquired = w.acquired ++ [v] := rfl

end Updates

/-! ## What one step does -/

/-- The socket `s` gives up `x` as the destructor and the move assignment do: `sync_close(x)`
when `x` is a descriptor, and `s` is left holding `-1`. -/
def giveUp (w : World) (s : Nat) (x : Int) : World :=
  if 0 ≤ x then (w.setFd s (-1)).closeCall s x else w.setFd s (-1)

section Steps

variable {w w' : World} {s t : Nat} {x : Int}

theorem fd_giveUp (hs : s < w.sockets.length) :
    (w.giveUp s x).fd t = if s = t then some (-1) else w.fd t := by
  unfold giveUp
  split <;> simp only [fd_closeCall, fd_setFd hs]

theorem fd_giveUp_of_ne (hst : s ≠ t) : (w.giveUp s x).fd t = w.fd t := by
  unfold giveUp
  split <;> simp [fd_setFd_of_ne hst]

theorem length_giveUp : (w.giveUp s x).sockets.length = w.sockets.length := by
  unfold giveUp
  split <;> simp [closeCall, setFd]

theorem step_build {socket : SysCall} (h : w.step (.build socket) = some w') :
    socket.ret = -1 ∧ w' = w ∨
      socket.ret ≠ -1 ∧ socket.ret ∉ w.opened ∧
        w' = (w.openFd socket.ret).adopt socket.ret := by
  simp only [step] at h
  split_ifs at h with hret hmem <;> cases h
  · exact .inr ⟨hret, hmem, rfl⟩
  · exact .inl ⟨not_not.mp hret, rfl⟩

theorem step_fromFd {fd : Int} (h : w.step (.fromFd fd) = some w') :
    fd ∈ w.opened ∧ some fd ∉ w.sockets ∧ w' = w.adopt fd := by
  simp only [step] at h
  split_ifs at h with hfd
  cases h
  exact ⟨hfd.1, hfd.2, rfl⟩

theorem step_moveAssign {self other : Nat} {close : Nat → CloseResult}
    (h : w.step (.moveAssign self other close) = some w') :
    ∃ x y, w.fd self = some x ∧ w.fd other = some y ∧
      w' = ((w.giveUp self x).setFd self y).setFd other (-1) := by
  simp only [step] at h
  rcases hx : w.fd self with _ | x <;> rcases hy : w.fd other with _ | y <;> simp [hx, hy] at h
  refine ⟨x, y, rfl, rfl, ?_⟩
  rw [← h, giveUp]
  split_ifs <;> simp [syncCloseBy_eq, setFd, closeCall, List.set_set]

theorem step_destroy {self : Nat} {close : Nat → CloseResult}
    (h : w.step (.destroy self close) = some w') :
    ∃ x, w.fd self = some x ∧ w' = (w.giveUp self x).kill self := by
  obtain ⟨x, hx, rfl⟩ := Option.map_eq_some'.mp h
  refine ⟨x, hx, ?_⟩
  unfold giveUp
  split_ifs
  · rw [syncCloseBy_eq, kill_closeCall_setFd]
  · rw [kill_setFd]

end Steps

/-- The closes one step adds, each issued by a socket that held its target just before: an
open descriptor, or `-1` when the step is `close()` of a socket that owns none. -/
def ClosesHeld (w : World) (op : Op) (w' : World) : Prop :=
  ∃ new, w'.closes = w.closes ++ new ∧
    ∀ c ∈ new, w.fd c.1 = some c.2 ∧ (c.2 ∈ w.opened ∨ c.2 = -1 ∧ op = .close c.1)

/-! ## The ownership invariant -/

/-- What every reachable world satisfies: the kernel's descriptors are non-negative, an `fd_` is
`-1` or open, a non-negative descriptor has at most one holder, and it was taken over as often
as it was closed or is held. -/
structure Inv (w : World) : Prop where
  opened_nonneg : ∀ x ∈ w.opened, 0 ≤ x
  fd_open : ∀ s x, w.fd s = some x → x = -1 ∨ x ∈ w.opened
  holders_le_one : ∀ x, 0 ≤ x → w.holders x ≤ 1
  acquired_count : ∀ x, 0 ≤ x → w.acquired.count x = w.closed x + w.holders x

namespace Inv

variable {w w' : World} {s t : Nat} {x y : Int}

theorem init (opened : List Nat) : (World.init opened).Inv where
  opened_nonneg := by
    simp only [World.init, List.mem_map]
    rintro _ ⟨a, -, rfl⟩
    exact Int.ofNat_nonneg a
  fd_open := by simp [World.init, fd]
  holders_le_one := by simp [World.init, holders]
  acquired_count := by simp [World.init, closed, holders]

theorem eq_of_fd_eq (hw : w.Inv) (hx : 0 ≤ x) (hs : w.fd s = some x) (ht : w.fd t = some x) :
    s = t := by
  by_contra hst
  have h1 := one_le_holders (show (w.kill s).fd t = some x by rw [fd_kill, if_neg hst, ht])
  rw [holders_kill hs, if_pos rfl] at h1
  have := hw.holders_le_one x hx
  omega

theorem holders_eq_zero (hw : w.Inv) (hx : 0 ≤ x) (h : x ∉ w.opened) : w.holders x = 0 := by
  refine Nat.eq_zero_of_not_pos fun hpos ↦ ?_
  obtain ⟨s, hs⟩ := List.mem_iff_getElem?.mp (List.count_pos_iff.mp hpos)
  rcases hw.fd_open s x (fd_eq_some_iff.mpr hs) with rfl | hmem
  · omega
  · exact h hmem

/-- A change that keeps the descriptors, the histories and the holder count of every
non-negative descriptor keeps the invariant, provided each `fd_` stays `-1` or open. -/
theorem of_holders_eq (hw : w.Inv) (ho : w'.opened = w.opened) (ha : w'.acquired = w.acquired)
    (hc : w'.closed = w.closed) (hh : ∀ x, 0 ≤ x → w'.holders x = w.holders x)
    (hf : ∀ s x, w'.fd s = some x → x = -1 ∨ x ∈ w.opened) : w'.Inv where
  opened_nonneg := by rw [ho]; exact hw.opened_nonneg
  fd_open := by rw [ho]; exact hf
  holders_le_one x hx := hh x hx ▸ hw.holders_le_one x hx
  acquired_count x hx := by rw [ha, hc, hh x hx]; exact hw.acquired_count x hx

/-- `fd_` moves from `t` to `s`, which held `-1`, and `t` is left with `-1`. -/
theorem transfer (hw : w.Inv) (hs : w.fd s = some (-1)) (ht : w.fd t = some y) (hst : s ≠ t) :
    ((w.setFd s y).setFd t (-1)).Inv := by
  have ht' : (w.setFd s y).fd t = some y := by
    rw [fd_setFd (lt_of_fd_eq_some hs), if_neg hst, ht]
  refine hw.of_holders_eq rfl rfl rfl (fun z hz ↦ ?_) (fun r z hr ↦ ?_)
  · rw [holders_setFd ht', holders_setFd hs]
    have : (-1 : Int) ≠ z := by omega
    split_ifs <;> omega
  · rw [fd_setFd (lt_of_fd_eq_some ht'), fd_setFd (lt_of_fd_eq_some hs)] at hr
    split_ifs at hr
    · exact .inl (Option.some.inj hr).symm
    · cases hr
      exact hw.fd_open t _ ht
    · exact hw.fd_open r z hr

/-- The socket `s` gives up `x`, which is closed: `close()`, and the release in the destructor
and the move assignment of a socket holding a descriptor. -/
theorem release (hw : w.Inv) (h : w.fd s = some x) : ((w.setFd s (-1)).closeCall s x).Inv where
  opened_nonneg z hz := hw.opened_nonneg z (mem_opened_closeCall.mp hz).1
  fd_open t z ht := by
    rw [fd_closeCall, fd_setFd (lt_of_fd_eq_some h)] at ht
    split_ifs at ht with hst
    · exact .inl (Option.some.inj ht).symm
    · refine (hw.fd_open t z ht).imp_right fun hz ↦ mem_opened_closeCall.mpr ⟨hz, ?_⟩
      rintro rfl
      exact hst (hw.eq_of_fd_eq (hw.opened_nonneg _ hz) h ht)
  holders_le_one z hz := by
    have := hw.holders_le_one z hz
    rw [holders_closeCall, holders_setFd h]
    split_ifs <;> omega
  acquired_count z hz := by
    rw [acquired_closeCall, acquired_setFd, closed_closeCall, closed_setFd, holders_closeCall,
      holders_setFd h, hw.acquired_count z hz]
    by_cases hxz : x = z
    · subst hxz
      have := one_le_holders h
      simp only [if_true, show (-1 : Int) ≠ x by omega, if_false]
      omega
    · simp [hxz, show (-1 : Int) ≠ z by omega]

theorem setFd_neg_one (hw : w.Inv) (h : w.fd s = some (-1)) : (w.setFd s (-1)).Inv := by
  refine hw.of_holders_eq rfl rfl rfl (fun z hz ↦ ?_) (fun t z ht ↦ ?_)
  · rw [holders_setFd h]
    simp [show (-1 : Int) ≠ z by omega]
  · rw [fd_setFd (lt_of_fd_eq_some h)] at ht
    split_ifs at ht
    · exact .inl (Option.some.inj ht).symm
    · exact hw.fd_open t z ht

theorem kill (hw : w.Inv) (h : w.fd s = some (-1)) : (w.kill s).Inv := by
  refine hw.of_holders_eq rfl rfl rfl (fun z hz ↦ ?_) (fun t z ht ↦ ?_)
  · rw [holders_kill h]
    simp [show (-1 : Int) ≠ z by omega]
  · rw [fd_kill] at ht
    split_ifs at ht
    exact hw.fd_open t z ht

theorem push_neg_one (hw : w.Inv) : (w.push (-1)).Inv := by
  refine hw.of_holders_eq rfl rfl rfl (fun z hz ↦ ?_) (fun t z ht ↦ ?_)
  · rw [holders_push]
    simp [show (-1 : Int) ≠ z by omega]
  · rw [fd_push] at ht
    split_ifs at ht
    · exact .inl (Option.some.inj ht).symm
    · exact hw.fd_open t z ht

/-- A new socket takes over an open descriptor that no socket holds. -/
theorem adopt (hw : w.Inv) (hx : x ∈ w.opened) (h0 : w.holders x = 0) : (w.adopt x).Inv where
  opened_nonneg := hw.opened_nonneg
  fd_open t z ht := by
    rw [fd_adopt, fd_push] at ht
    split_ifs at ht
    · cases ht
      exact .inr hx
    · exact hw.fd_open t z ht
  holders_le_one z hz := by
    have := hw.holders_le_one z hz
    rw [holders_adopt, holders_push]
    by_cases hxz : x = z
    · subst hxz
      simp [h0]
    · simp [hxz]
      omega
  acquired_count z hz := by
    rw [acquired_adopt, closed_adopt, holders_adopt, holders_push, List.count_append,
      hw.acquired_count z hz]
    by_cases hxz : x = z
    · subst hxz
      simp only [List.count_singleton, beq_self_eq_true, if_true]
      omega
    · simp [hxz, List.count_singleton]

theorem openFd (hw : w.Inv) (hx : 0 ≤ x) (hfresh : x ∉ w.opened) : (w.openFd x).Inv where
  opened_nonneg z hz := by
    rcases List.mem_cons.mp hz with rfl | hz
    · exact hx
    · exact hw.opened_nonneg z hz
  fd_open t z ht := (hw.fd_open t z ht).imp_right (List.mem_cons_of_mem x)
  holders_le_one := hw.holders_le_one
  acquired_count := hw.acquired_count

theorem eq_neg_one_of_fd (hw : w.Inv) (h : w.fd s = some x) (hx : ¬0 ≤ x) : x = -1 :=
  (hw.fd_open s x h).resolve_right fun hmem ↦ hx (hw.opened_nonneg x hmem)

/-! ### One operation, and a run -/

theorem giveUp (hw : w.Inv) (hx : w.fd s = some x) :
    (w.giveUp s x).Inv ∧ (w.giveUp s x).fd s = some (-1) := by
  refine ⟨?_, by simp [fd_giveUp (lt_of_fd_eq_some hx)]⟩
  unfold World.giveUp
  split_ifs with h0
  · exact hw.release hx
  · exact hw.setFd_neg_one (hw.eq_neg_one_of_fd hx h0 ▸ hx)

theorem step (hw : w.Inv) {op : Op} (h : w.step op = some w') : w'.Inv := by
  cases op with
  | build socket =>
    rcases step_build h with ⟨-, rfl⟩ | ⟨hret, hmem, rfl⟩
    · exact hw
    · have hnonneg := SysCall.ret_nonneg hret
      exact (hw.openFd hnonneg hmem).adopt (List.mem_cons_self _ _)
        (hw.holders_eq_zero hnonneg hmem)
  | fromFd fd =>
    obtain ⟨hmem, hfree, rfl⟩ := step_fromFd h
    exact hw.adopt hmem (List.count_eq_zero.mpr hfree)
  | moveConstruct other =>
    obtain ⟨x, hx, rfl⟩ := Option.map_eq_some'.mp h
    have hlt := lt_of_fd_eq_some hx
    rw [← push_setFd_length (v := -1)]
    refine hw.push_neg_one.transfer (by simp [fd_push]) ?_ (Nat.ne_of_gt hlt)
    rw [fd_push, if_neg (Nat.ne_of_lt hlt), hx]
  | moveAssign self other close =>
    obtain ⟨x, y, hx, hy, rfl⟩ := step_moveAssign h
    obtain ⟨hw2, hself⟩ := hw.giveUp hx
    by_cases hso : self = other
    · subst hso
      rw [setFd_setFd]
      exact hw2.setFd_neg_one hself
    · exact hw2.transfer hself (by rw [fd_giveUp (lt_of_fd_eq_some hx), if_neg hso, hy]) hso
  | close self =>
    obtain ⟨x, hx, rfl⟩ := Option.map_eq_some'.mp h
    exact hw.release hx
  | destroy self close =>
    obtain ⟨x, hx, rfl⟩ := step_destroy h
    obtain ⟨hw2, hself⟩ := hw.giveUp hx
    exact hw2.kill hself

theorem run (hw : w.Inv) {ops : List Op} (h : w.run ops = some w') : w'.Inv := by
  induction ops generalizing w with
  | nil =>
    simp only [World.run, Option.some.injEq] at h
    exact h ▸ hw
  | cons op ops ih =>
    obtain ⟨w1, h1, h2⟩ := Option.bind_eq_some.mp h
    exact ih (hw.step h1) h2

/-- Every close of one step targets what its issuer held: the synchronous closes of the
destructor and the move assignment an open descriptor, `close()` an open one or `-1`. -/
theorem closesHeld (hw : w.Inv) {op : Op} (h : w.step op = some w') : ClosesHeld w op w' := by
  have unchanged {w' : World} (hc : w'.closes = w.closes) : ClosesHeld w op w' :=
    ⟨[], hc.trans (List.append_nil _).symm, by simp⟩
  have giveUp_held {s : Nat} {x : Int} (hx : w.fd s = some x) :
      ∃ new, (w.giveUp s x).closes = w.closes ++ new ∧ ∀ c ∈ new,
        w.fd c.1 = some c.2 ∧ (c.2 ∈ w.opened ∨ c.2 = -1 ∧ op = .close c.1) := by
    unfold World.giveUp
    split_ifs with h0
    · refine ⟨[(s, x)], rfl, ?_⟩
      simpa using ⟨hx, .inl ((hw.fd_open s x hx).resolve_left (by omega))⟩
    · exact unchanged rfl
  cases op with
  | build socket =>
    rcases step_build h with ⟨-, rfl⟩ | ⟨-, -, rfl⟩ <;> exact unchanged rfl
  | fromFd fd =>
    obtain ⟨-, -, rfl⟩ := step_fromFd h
    exact unchanged rfl
  | moveConstruct other =>
    obtain ⟨x, -, rfl⟩ := Option.map_eq_some'.mp h
    exact unchanged rfl
  | moveAssign self other close =>
    obtain ⟨x, y, hx, -, rfl⟩ := step_moveAssign h
    exact giveUp_held hx
  | close self =>
    obtain ⟨x, hx, rfl⟩ := Option.map_eq_some'.mp h
    refine ⟨[(self, x)], rfl, fun c hc ↦ ?_⟩
    rw [List.mem_singleton] at hc
    subst hc
    exact ⟨hx, (hw.fd_open self x hx).symm.imp_right fun h1 ↦ ⟨h1, rfl⟩⟩
  | destroy self close =>
    obtain ⟨x, hx, rfl⟩ := step_destroy h
    exact giveUp_held hx

end Inv

/-! ## Along every run -/

/-- What the sockets guarantee in every world a run reaches: (i) a non-negative `fd_` is open
and has one live holder; (ii) the closes of the next step target what their issuers hold; and
(iii) a descriptor was taken over as often as it was closed or is held. -/
structure Sound (w : World) : Prop where
  fd_open : ∀ s x, 0 ≤ x → w.fd s = some x → x ∈ w.opened
  fd_unique : ∀ s t x, 0 ≤ x → w.fd s = some x → w.fd t = some x → s = t
  closes_held : ∀ op w', w.step op = some w' → ClosesHeld w op w'
  acquired_count : ∀ x, 0 ≤ x → w.acquired.count x = w.closed x + w.holders x

theorem Inv.sound {w : World} (hw : w.Inv) : w.Sound where
  fd_open s x hx h := (hw.fd_open s x h).resolve_left (by omega)
  fd_unique _ _ _ hx hs ht := hw.eq_of_fd_eq hx hs ht
  closes_held _ _ h := hw.closesHeld h
  acquired_count := hw.acquired_count

/-! ## Worlds that keep the invariant -/

/-- A world with the invariant as a field: a value of this type cannot break it. -/
structure Valid where
  world : World
  inv : world.Inv

namespace Valid

def init (opened : List Nat) : Valid := ⟨World.init opened, Inv.init opened⟩

def step (v : Valid) (op : Op) : Option Valid :=
  match h : v.world.step op with
  | some w => some ⟨w, v.inv.step h⟩
  | none => none

def run : Valid → List Op → Option Valid
  | v, [] => some v
  | v, op :: ops => (v.step op).bind (run · ops)

/-- The step of a valid world is the step of its world. -/
theorem step_world (v : Valid) (op : Op) : (v.step op).map world = v.world.step op := by
  simp only [step]
  split <;> simp [*]

/-- A run of valid worlds is a run of their worlds. -/
theorem run_world (v : Valid) (ops : List Op) : (v.run ops).map world = v.world.run ops := by
  induction ops generalizing v with
  | nil => rfl
  | cons op ops ih =>
    simp only [run, World.run, ← step_world, Option.map_bind, Option.bind_map, Function.comp_def,
      ih]

theorem sound (v : Valid) : v.world.Sound := v.inv.sound

/-- Every world a run reaches from the start is the world of a valid world. -/
theorem exists_of_run {opened : List Nat} {ops : List Op} {w : World}
    (h : (World.init opened).run ops = some w) : ∃ v : Valid, v.world = w := by
  obtain ⟨v, -, hv⟩ := Option.map_eq_some'.mp (((init opened).run_world ops).trans h)
  exact ⟨v, hv⟩

end Valid

/-- Any sequence of socket operations, from any set of open descriptors, reaches only sound
worlds. -/
theorem run_sound (opened : List Nat) (ops : List Op) (w : World)
    (h : (init opened).run ops = some w) : w.Sound := by
  obtain ⟨v, rfl⟩ := Valid.exists_of_run h
  exact v.sound

theorem run_sound_move_assign_destroy :
    (init []).run [.build (.ok 3), .build (.ok 4), .moveAssign 0 1 (fun _ ↦ .ok),
        .destroy 0 fun _ ↦ .ok] = some ⟨[none, some (-1)], [], [3, 4], [(0, 3), (0, 4)]⟩ ∧
      Sound ⟨[none, some (-1)], [], [3, 4], [(0, 3), (0, 4)]⟩ :=
  ⟨by decide,
    run_sound [] [.build (.ok 3), .build (.ok 4), .moveAssign 0 1 (fun _ ↦ .ok),
      .destroy 0 fun _ ↦ .ok] _ (by decide)⟩

/-- `close()` twice: the second call closes `-1`, which is no open descriptor. -/
theorem close_twice_closes_neg_one :
    ∃ w w', (init []).run [.build (.ok 3), .close 0] = some w ∧ w.step (.close 0) = some w' ∧
      w'.closes = w.closes ++ [(0, -1)] ∧ (-1 : Int) ∉ w.opened :=
  ⟨_, _, rfl, rfl, rfl, by decide⟩

/-! ## Sockets a run leaves alone -/

section Frame

variable {w w' : World} {t : Nat}

/-- One step changes `fd_` of the sockets it is called on only, and adds sockets at the end. -/
theorem step_frame {op : Op} (h : w.step op = some w') :
    w.sockets.length ≤ w'.sockets.length ∧
      ∀ t < w.sockets.length, t ∉ op.names → w'.fd t = w.fd t := by
  cases op with
  | build socket =>
    rcases step_build h with ⟨-, rfl⟩ | ⟨-, -, rfl⟩
    · exact ⟨Nat.le_refl _, fun _ _ _ ↦ rfl⟩
    · exact ⟨by simp [adopt, push], fun t ht _ ↦ by simp [fd_push, Nat.ne_of_lt ht]⟩
  | fromFd fd =>
    obtain ⟨-, -, rfl⟩ := step_fromFd h
    exact ⟨by simp [adopt, push], fun t ht _ ↦ by simp [fd_push, Nat.ne_of_lt ht]⟩
  | moveConstruct other =>
    obtain ⟨x, -, rfl⟩ := Option.map_eq_some'.mp h
    refine ⟨by simp [setFd, push], fun t ht hn ↦ ?_⟩
    simp only [Op.names, List.mem_singleton] at hn
    rw [fd_setFd_of_ne (Ne.symm hn), fd_push, if_neg (Nat.ne_of_lt ht)]
  | moveAssign self other close =>
    obtain ⟨x, y, -, -, rfl⟩ := step_moveAssign h
    refine ⟨by simp [setFd, length_giveUp], fun t _ hn ↦ ?_⟩
    simp only [Op.names, List.mem_cons, List.mem_singleton, not_or, List.not_mem_nil] at hn
    rw [fd_setFd_of_ne (Ne.symm hn.2.1), fd_setFd_of_ne (Ne.symm hn.1),
      fd_giveUp_of_ne (Ne.symm hn.1)]
  | close self =>
    obtain ⟨x, -, rfl⟩ := Option.map_eq_some'.mp h
    refine ⟨by simp [closeCall, setFd], fun t _ hn ↦ ?_⟩
    simp only [Op.names, List.mem_singleton] at hn
    rw [fd_closeCall, fd_setFd_of_ne (Ne.symm hn)]
  | destroy self close =>
    obtain ⟨x, -, rfl⟩ := step_destroy h
    refine ⟨by simp [kill, length_giveUp], fun t _ hn ↦ ?_⟩
    simp only [Op.names, List.mem_singleton] at hn
    rw [fd_kill, if_neg (Ne.symm hn), fd_giveUp_of_ne (Ne.symm hn)]

/-- A socket that no operation of a run is called on keeps its `fd_` through the run. -/
theorem run_frame {ops : List Op} (h : w.run ops = some w') (ht : t < w.sockets.length)
    (hnames : ∀ op ∈ ops, t ∉ op.names) : w'.fd t = w.fd t := by
  induction ops generalizing w with
  | nil =>
    simp only [World.run, Option.some.injEq] at h
    rw [h]
  | cons op ops ih =>
    obtain ⟨w1, h1, h2⟩ := Option.bind_eq_some.mp h
    obtain ⟨hlen, hfd⟩ := step_frame h1
    rw [ih h2 (Nat.lt_of_lt_of_le ht hlen) fun op' hop ↦ hnames op' (List.mem_cons_of_mem _ hop),
      hfd t ht (hnames op (List.mem_cons_self _ _))]

end Frame

/-- From every world a run reaches, a socket that the further operations are not called on keeps
its descriptor through them, and the descriptor stays open: whatever the other sockets are
built, moved, closed or destroyed, none of them closes it. -/
theorem run_keeps_unnamed (opened : List Nat) (ops ops' : List Op) {w w' : World} {t : Nat}
    {x : Int} (h : (init opened).run ops = some w) (h' : w.run ops' = some w')
    (hx : w.fd t = some x) (hnames : ∀ op ∈ ops', t ∉ op.names) :
    w'.fd t = some x ∧ (0 ≤ x → x ∈ w'.opened) := by
  obtain ⟨v, rfl⟩ := Valid.exists_of_run h
  have hfd := (run_frame h' (lt_of_fd_eq_some hx) hnames).trans hx
  exact ⟨hfd, fun hx0 ↦ ((v.inv.run h').fd_open t x hfd).resolve_left (by omega)⟩

theorem run_keeps_unnamed_moved_away :
    (init [3, 4]).run [.fromFd 3, .fromFd 4] = some ⟨[some 3, some 4], [3, 4], [3, 4], []⟩ ∧
      World.run ⟨[some 3, some 4], [3, 4], [3, 4], []⟩
          [.moveConstruct 1, .close 2, .destroy 1 fun _ ↦ .ok] =
        some ⟨[some 3, none, some (-1)], [3], [3, 4], [(2, 4)]⟩ ∧
      World.fd ⟨[some 3, some 4], [3, 4], [3, 4], []⟩ 0 = some 3 ∧
      (∀ op ∈ [Op.moveConstruct 1, .close 2, .destroy 1 fun _ ↦ .ok], 0 ∉ op.names) ∧
      World.fd ⟨[some 3, none, some (-1)], [3], [3, 4], [(2, 4)]⟩ 0 = some 3 ∧
        (0 ≤ (3 : Int) → (3 : Int) ∈ [(3 : Int)]) :=
  have h : (init [3, 4]).run [.fromFd 3, .fromFd 4] =
      some ⟨[some 3, some 4], [3, 4], [3, 4], []⟩ := rfl
  have h' : World.run ⟨[some 3, some 4], [3, 4], [3, 4], []⟩
      [.moveConstruct 1, .close 2, .destroy 1 fun _ ↦ .ok] =
        some ⟨[some 3, none, some (-1)], [3], [3, 4], [(2, 4)]⟩ := rfl
  have hx : World.fd ⟨[some 3, some 4], [3, 4], [3, 4], []⟩ 0 = some 3 := rfl
  have hn : ∀ op ∈ [Op.moveConstruct 1, .close 2, .destroy 1 fun _ ↦ .ok], 0 ∉ op.names := by
    decide
  ⟨h, h', hx, hn, run_keeps_unnamed [3, 4] _ _ h h' hx hn⟩

/-! ## Destroying every socket -/

/-- The sockets alive in `w`, by id. -/
def live (w : World) : List Nat :=
  (List.range w.sockets.length).filter fun s ↦ (w.fd s).isSome

theorem mem_live {w : World} {s : Nat} : s ∈ w.live ↔ (w.fd s).isSome := by
  simp only [live, List.mem_filter, List.mem_range, and_iff_right_iff_imp]
  intro hs
  obtain ⟨x, hx⟩ := Option.isSome_iff_exists.mp hs
  exact lt_of_fd_eq_some hx

/-- The destructor of a live socket is allowed, keeps the invariant and destroys that socket
only. -/
theorem Inv.destroy {w : World} (hw : w.Inv) {s : Nat} {x : Int} (hx : w.fd s = some x)
    (close : Nat → CloseResult) :
    ∃ w', w.step (.destroy s close) = some w' ∧ w'.Inv ∧
      ∀ t, w'.fd t = if s = t then none else w.fd t := by
  have hstep : w.step (.destroy s close) =
      some ((if x ≥ 0 then w.syncCloseBy s x close else w).kill s) := by
    simp only [World.step, hx, Option.map_some']
  refine ⟨_, hstep, hw.step hstep, fun t ↦ ?_⟩
  rw [fd_kill]
  split_ifs <;> simp [syncCloseBy_eq]

/-- Destroying distinct live sockets one after another is allowed, keeps the invariant, and
destroys exactly those sockets. -/
theorem Inv.destroyAll {w : World} (hw : w.Inv) (close : Nat → CloseResult) {ids : List Nat}
    (hnd : ids.Nodup) (hlive : ∀ s ∈ ids, (w.fd s).isSome) :
    ∃ w', w.run (ids.map fun s ↦ .destroy s close) = some w' ∧ w'.Inv ∧
      ∀ t, w'.fd t = if t ∈ ids then none else w.fd t := by
  induction ids generalizing w with
  | nil => exact ⟨w, rfl, hw, fun t ↦ by simp⟩
  | cons s ids ih =>
    obtain ⟨hs, hnd⟩ := List.nodup_cons.mp hnd
    obtain ⟨x, hx⟩ := Option.isSome_iff_exists.mp (hlive s (List.mem_cons_self _ _))
    obtain ⟨w1, h1, hw1, hfd1⟩ := hw.destroy hx close
    have hlive1 : ∀ t ∈ ids, (w1.fd t).isSome := fun t ht ↦ by
      rw [hfd1, if_neg fun (hst : s = t) ↦ hs (hst ▸ ht)]
      exact hlive t (List.mem_cons_of_mem _ ht)
    obtain ⟨w', h', hw', hfd'⟩ := ih hw1 hnd hlive1
    refine ⟨w', by simp [World.run, h1, h'], hw', fun t ↦ ?_⟩
    rw [hfd', hfd1]
    by_cases hst : s = t
    · simp [hst]
    · simp [hst, Ne.symm hst]

/-- From every world a run reaches, destroying the live sockets, in any order, is allowed and
destroys them all, and then every descriptor the sockets took over was closed exactly as often
as it was taken over: no socket leaks one. -/
theorem destroy_live_closes_acquired (opened : List Nat) (ops : List Op) (w : World)
    (h : (init opened).run ops = some w) (close : Nat → CloseResult) (ids : List Nat)
    (hids : ids.Perm w.live) :
    ∃ w', w.run (ids.map fun s ↦ .destroy s close) = some w' ∧ (∀ s, w'.fd s = none) ∧
      ∀ x, 0 ≤ x → w'.acquired.count x = w'.closed x := by
  have hnd : ids.Nodup := hids.nodup_iff.mpr ((List.nodup_range _).filter _)
  obtain ⟨v, rfl⟩ := Valid.exists_of_run h
  obtain ⟨w', hrun, hw', hfd⟩ := v.inv.destroyAll close hnd
    fun s hs ↦ mem_live.mp (hids.subset hs)
  have hnone : ∀ t, w'.fd t = none := fun t ↦ by
    rw [hfd]
    split_ifs with ht
    · rfl
    · exact Option.not_isSome_iff_eq_none.mp fun hsome ↦ ht (hids.mem_iff.mpr (mem_live.mpr hsome))
  refine ⟨w', hrun, hnone, fun x hx ↦ ?_⟩
  have h0 : w'.holders x = 0 := List.count_eq_zero.mpr fun hmem ↦ by
    obtain ⟨t, ht⟩ := List.mem_iff_getElem?.mp hmem
    simpa [hnone t] using fd_eq_some_iff.mpr ht
  rw [hw'.acquired_count x hx, h0, Nat.add_zero]

theorem destroy_live_closes_acquired_two_sockets :
    (init []).run [.build (.ok 3), .build (.ok 4)] = some ⟨[some 3, some 4], [4, 3], [3, 4], []⟩ ∧
      [1, 0].Perm (live ⟨[some 3, some 4], [4, 3], [3, 4], []⟩) ∧
      ∃ w', (World.run ⟨[some 3, some 4], [4, 3], [3, 4], []⟩
          ([1, 0].map fun s ↦ .destroy s fun _ ↦ .ok) = some w') ∧ (∀ s, w'.fd s = none) ∧
        ∀ x, 0 ≤ x → w'.acquired.count x = w'.closed x :=
  have hperm : [1, 0].Perm (live ⟨[some 3, some 4], [4, 3], [3, 4], []⟩) := List.Perm.swap 0 1 []
  ⟨by decide, hperm,
    destroy_live_closes_acquired [] [.build (.ok 3), .build (.ok 4)] _ (by decide) _ _ hperm⟩

end World

end Zedio.Net.Socket
