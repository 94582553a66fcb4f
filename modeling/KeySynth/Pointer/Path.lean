import KeySynth.Pointer.Point

/-!
The way of the cursor in an incremental move.

Each axis advances by a fixed share of what is left, by no less than 32 and never past the
goal, so both axes arrive and the path ends at the goal.
-/

namespace KeySynth.Path

/-- The least step of an axis, in pixels. -/
def minStep : Nat := 32

/-- How far an axis moves when `left` is left: the speed's share, as a coordinate. -/
def stride (speed left : Nat) : Nat := min (max (left / speed) minStep) 0x7FFFFFFF

/-- One step of an axis toward its goal. -/
def advance (speed : Nat) (goal a : Int) : Int :=
  let s := stride speed (goal - a).natAbs
  if a < goal then min (a + s) goal
  else if goal < a then max (a - s) goal
  else a

theorem stride_pos (speed left : Nat) : 0 < stride speed left := by
  unfold stride minStep; omega

theorem advance_closer (speed : Nat) {goal a : Int} (h : a ≠ goal) :
    (goal - advance speed goal a).natAbs < (goal - a).natAbs := by
  have := stride_pos speed (goal - a).natAbs
  unfold advance
  dsimp only
  split
  · omega
  · split <;> omega

@[simp] theorem advance_self (speed : Nat) (goal : Int) : advance speed goal goal = goal := by
  simp [advance]

/-- The point after `p` on the way to `goal`, none once there. -/
def next? (speed : Nat) (goal p : Point) : Option Point :=
  if p = goal then none
  else some ⟨advance speed goal.x p.x, advance speed goal.y p.y⟩

/-- How much of the way is left. -/
def remaining (goal p : Point) : Nat := (goal.x - p.x).natAbs + (goal.y - p.y).natAbs

theorem remaining_next {speed : Nat} {goal p q : Point} (h : next? speed goal p = some q) :
    remaining goal q < remaining goal p := by
  unfold next? at h
  split at h
  · cases h
  · rename_i hne
    cases h
    have hxy : p.x ≠ goal.x ∨ p.y ≠ goal.y := by
      rcases Int.decEq p.x goal.x with hx | hx
      · exact .inl hx
      · rcases Int.decEq p.y goal.y with hy | hy
        · exact .inr hy
        · exact absurd (by cases p; cases goal; simp_all) hne
    unfold remaining
    dsimp only
    by_cases hx : p.x = goal.x <;> by_cases hy : p.y = goal.y
    · simp_all
    · have := advance_closer speed hy
      rw [hx, advance_self]; omega
    · have := advance_closer speed hx
      rw [hy, advance_self]; omega
    · have := advance_closer speed hx
      have := advance_closer speed hy
      omega

/-- The points after `p`. -/
def after (speed : Nat) (goal p : Point) : List Point :=
  match _h : next? speed goal p with
  | none => []
  | some q => q :: after speed goal q
termination_by remaining goal p
decreasing_by exact remaining_next ‹_›

/-- The first `n` points after `p`. -/
def firstAfter (speed : Nat) (goal p : Point) : Nat → List Point
  | 0 => []
  | n + 1 =>
    match next? speed goal p with
    | none => []
    | some q => q :: firstAfter speed goal q n

/-- Speeds below one act as one. -/
def effective (speed : Int) : Nat := (max speed 1).toNat

/-- The points of a move, its start left out. -/
def points (start goal : Point) (speed : Int) : List Point := after (effective speed) goal start

theorem firstAfter_eq_take (speed : Nat) (goal p : Point) (n : Nat) :
    firstAfter speed goal p n = (after speed goal p).take n := by
  induction n generalizing p with
  | zero => simp [firstAfter]
  | succ n ih =>
    rw [firstAfter, after]
    split <;> split <;> simp_all

end KeySynth.Path
