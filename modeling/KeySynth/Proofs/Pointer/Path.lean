import Mathlib.Tactic.Common
import KeySynth.Pointer.Path

/-!
Where an incremental move goes and where it ends.

Each axis comes nearer by itself: `Nears` is one step of one axis. The larger of the two distances
bounds the number of points.
-/

namespace KeySynth.Path

variable {speed : Nat} {goal p q : Point} {α β : Type}

lemma next?_eq_none : next? speed goal p = none ↔ p = goal := by
  unfold next?
  split_ifs with h <;> simp [h]

lemma after_of_none (h : next? speed goal p = none) : after speed goal p = [] := by
  rw [after]
  split <;> simp_all

lemma after_of_some (h : next? speed goal p = some q) :
    after speed goal p = q :: after speed goal q := by
  rw [after]
  split <;> simp_all

/-- The last point on the way is the goal, and at the goal no way is left. -/
lemma getLastD_after (speed : Nat) (goal p : Point) : (after speed goal p).getLastD p = goal := by
  induction p using after.induct speed goal with
  | case1 p h =>
    rw [after_of_none h]
    exact next?_eq_none.mp h
  | case2 p q h ih =>
    rw [after_of_some h, List.getLastD_cons]
    exact ih

/-- **An incremental move ends at its goal**, whatever its speed. -/
theorem getLastD_points (start goal : Point) (speed : Int) :
    (points start goal speed).getLastD start = goal :=
  getLastD_after _ goal start

/-! ### One step -/

/-- One axis goes from `a` to `b` on its way to `goal`. -/
structure Nears (goal a b : Int) : Prop where
  /-- Toward the goal, and not past it. -/
  toward : a ≤ b ∧ b ≤ goal ∨ goal ≤ b ∧ b ≤ a
  least : min minStep (goal - a).natAbs ≤ (b - a).natAbs
  stays : a = goal → b = goal

lemma minStep_le_stride (speed left : Nat) : minStep ≤ stride speed left := by
  unfold stride minStep
  omega

lemma nears_advance (speed : Nat) (goal a : Int) : Nears goal a (advance speed goal a) := by
  have hstep := minStep_le_stride speed (goal - a).natAbs
  unfold advance
  dsimp only
  split_ifs with hlt hgt
  · exact ⟨by omega, by omega, by omega⟩
  · exact ⟨by omega, by omega, by omega⟩
  · exact ⟨by omega, by omega, id⟩

/-- Both axes come nearer, and one of them at least moves. -/
structure Step (goal p q : Point) : Prop where
  x : Nears goal.x p.x q.x
  y : Nears goal.y p.y q.y
  ne : p ≠ q

lemma step_next (h : next? speed goal p = some q) : Step goal p q := by
  have hlt := remaining_next h
  unfold next? at h
  split_ifs at h
  cases h
  refine ⟨nears_advance .., nears_advance .., fun heq => ?_⟩
  rw [← heq] at hlt
  exact Nat.lt_irrefl _ hlt

/-! ### All steps -/

/-- Asked again and again from `a` on, `next` gives the items of the list and then no more. -/
inductive Yields (next : α → Option α) : α → List α → Prop where
  | done {a : α} : next a = none → Yields next a []
  | more {a b : α} {bs : List α} : next a = some b → Yields next b bs → Yields next a (b :: bs)

lemma yields_after (speed : Nat) (goal p : Point) :
    Yields (next? speed goal) p (after speed goal p) := by
  induction p using after.induct speed goal with
  | case1 p h =>
    rw [after_of_none h]
    exact .done h
  | case2 p q h ih =>
    rw [after_of_some h]
    exact .more h ih

/-- What holds of each step holds along the list. -/
lemma Yields.isChain {next : α → Option α} {R : α → α → Prop}
    (hR : ∀ a b, next a = some b → R a b) {a : α} {bs : List α} (h : Yields next a bs) :
    (a :: bs).IsChain R := by
  induction h with
  | done => exact .singleton _
  | more hb _ ih => exact .cons_cons (hR _ _ hb) ih

lemma Yields.next_getLastD {next : α → Option α} {a : α} {bs : List α} (h : Yields next a bs) :
    next (bs.getLastD a) = none := by
  induction h with
  | done hnone => exact hnone
  | more _ _ ih => rwa [List.getLastD_cons]

lemma Yields.eq_nil {next : α → Option α} {a : α} {bs : List α} (h : Yields next a bs)
    (hnone : next a = none) : bs = [] := by
  cases h with
  | done => rfl
  | more hsome => cases hnone.symm.trans hsome

/-- A list that is made of what is seen of the items is seen of a list of items. -/
lemma Yields.exists_map {f : α → β} {next : α → Option α} {seen : β → Option β}
    (hseen : ∀ a, (next a).map f = seen (f a)) {b : β} {bs : List β} (h : Yields seen b bs) :
    ∀ a, f a = b → ∃ as, Yields next a as ∧ as.map f = bs := by
  induction h with
  | done hnone =>
    rintro a rfl
    exact ⟨[], .done (Option.map_eq_none_iff.mp ((hseen a).trans hnone)), rfl⟩
  | more hsome _ ih =>
    rintro a rfl
    obtain ⟨a', ha', rfl⟩ := Option.map_eq_some_iff.mp ((hseen a).trans hsome)
    obtain ⟨as, has, rfl⟩ := ih a' rfl
    exact ⟨a' :: as, .more ha' has, rfl⟩

/-- The larger of the two distances that are left. -/
def farthest (goal p : Point) : Nat := max (goal.x - p.x).natAbs (goal.y - p.y).natAbs

lemma farthest_pos (h : p ≠ goal) : 0 < farthest goal p := by
  obtain ⟨x, y⟩ := p
  obtain ⟨gx, gy⟩ := goal
  simp only [ne_eq, Point.mk.injEq] at h
  unfold farthest
  dsimp only
  omega

lemma Nears.left_le {goal a b : Int} (h : Nears goal a b) :
    (goal - b).natAbs + min minStep (goal - a).natAbs ≤ (goal - a).natAbs := by
  have htoward := h.toward
  have hleast := h.least
  omega

/-- Of each 32 pixels of the longer way at most one point is made. -/
lemma length_after_le (speed : Nat) (goal p : Point) :
    minStep * (after speed goal p).length ≤ farthest goal p + (minStep - 1) := by
  induction p using after.induct speed goal with
  | case1 p h =>
    rw [after_of_none h]
    simp
  | case2 p q h ih =>
    rw [after_of_some h, List.length_cons]
    have hx := (step_next h).x.left_le
    have hy := (step_next h).y.left_le
    have hfar : 0 < farthest goal p :=
      farthest_pos fun heq => Option.some_ne_none q (h.symm.trans (next?_eq_none.mpr heq))
    unfold farthest minStep at *
    omega

end KeySynth.Path
