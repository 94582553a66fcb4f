import Mathlib.Tactic.Common
import KeySynth.Proofs.Pointer.Path

/-!
An incremental move in words of 32 bits.

Coordinates, distances and speeds are words, which would wrap round beyond their ends. On its way a
move never gets there: in words it makes the points that it makes in integers.
-/

namespace KeySynth.Path

/-- A point of the screen in words. -/
structure WordPoint where
  x : Int32
  y : Int32
deriving DecidableEq

def WordPoint.point (p : WordPoint) : Point := ⟨p.x.toInt, p.y.toInt⟩

namespace Words

/-- The distance of two coordinates. -/
def distance (a b : Int32) : UInt32 :=
  if a < b then b.toUInt32 - a.toUInt32 else a.toUInt32 - b.toUInt32

/-- How far an axis moves; more than the greatest coordinate is as much as that. -/
def stride (speed : Int32) (left : UInt32) : Int32 :=
  let d := max (left / speed.toUInt32) 32
  if d ≤ 0x7FFFFFFF then d.toInt32 else Int32.maxValue

/-- The sum, or the greatest coordinate if it were beyond that. -/
def plus (a d : Int32) : Int32 := if a ≤ Int32.maxValue - d then a + d else Int32.maxValue

/-- The difference, or the least coordinate if it were beyond that. -/
def minus (a d : Int32) : Int32 := if Int32.minValue + d ≤ a then a - d else Int32.minValue

def advance (speed goal a : Int32) : Int32 :=
  let d := stride speed (distance goal a)
  if a < goal then min (plus a d) goal
  else if goal < a then max (minus a d) goal
  else a

def next? (speed : Int32) (goal p : WordPoint) : Option WordPoint :=
  if p = goal then none
  else some ⟨advance speed goal.x p.x, advance speed goal.y p.y⟩

/-! ### No word wraps round -/

lemma toInt_eq (a : Int32) : a.toInt =
    if a.toUInt32.toNat < 0x80000000 then (a.toUInt32.toNat : Int)
    else a.toUInt32.toNat - 0x100000000 := by
  have h : a.toInt = if 2 * a.toUInt32.toNat < 2 ^ 32 then (a.toUInt32.toNat : Int)
      else a.toUInt32.toNat - (2 ^ 32 : Nat) := BitVec.toInt_eq_toNat_cond a.toBitVec
  rw [h]
  split_ifs <;> omega

lemma toNat_distance (a b : Int32) : (distance a b).toNat = (a.toInt - b.toInt).natAbs := by
  have ha := toInt_eq a
  have hb := toInt_eq b
  have hla := a.toUInt32.toNat_lt
  have hlb := b.toUInt32.toNat_lt
  unfold distance
  split_ifs with h <;> rw [Int32.lt_iff_toInt_lt] at h <;> rw [UInt32.toNat_sub] <;> omega

lemma toNat_toUInt32 {a : Int32} (h : 0 ≤ a.toInt) : a.toUInt32.toNat = a.toInt.toNat := by
  have ha := toInt_eq a
  have hlt := a.toUInt32.toNat_lt
  split_ifs at ha <;> omega

lemma toInt_toInt32 {d : UInt32} (h : d.toNat ≤ 0x7FFFFFFF) : d.toInt32.toInt = d.toNat := by
  have hcast : d.toInt32.toUInt32 = d := rfl
  have hd := toInt_eq d.toInt32
  rw [hcast, if_pos (by omega)] at hd
  exact hd

lemma toInt_min (a b : Int32) : (min a b).toInt = min a.toInt b.toInt := by
  have h : min a b = if a ≤ b then a else b := rfl
  rw [h]
  split_ifs with hab <;> rw [Int32.le_iff_toInt_le] at hab <;> omega

lemma toInt_max (a b : Int32) : (max a b).toInt = max a.toInt b.toInt := by
  have h : max a b = if a ≤ b then b else a := rfl
  rw [h]
  split_ifs with hab <;> rw [Int32.le_iff_toInt_le] at hab <;> omega

lemma toInt_stride {speed : Int32} (hspeed : 0 < speed.toInt) (left : UInt32) :
    (stride speed left).toInt = Path.stride speed.toInt.toNat left.toNat := by
  have hmax : (max (left / speed.toUInt32) 32).toNat =
      max (left.toNat / speed.toInt.toNat) minStep := by
    rw [UInt32.toNat_max, UInt32.toNat_div, toNat_toUInt32 (Int.le_of_lt hspeed)]
    rfl
  unfold stride Path.stride
  rw [← hmax]
  dsimp only
  split_ifs with h
  · have hle : (max (left / speed.toUInt32) 32).toNat ≤ 0x7FFFFFFF := UInt32.le_iff_toNat_le.mp h
    rw [toInt_toInt32 hle, Nat.min_eq_left hle]
  · have hge : 0x7FFFFFFF ≤ (max (left / speed.toUInt32) 32).toNat :=
      Nat.le_of_not_le fun hle => h (UInt32.le_iff_toNat_le.mpr hle)
    rw [Nat.min_eq_right hge]
    rfl

lemma toInt_plus (a : Int32) {d : Int32} (h : 0 ≤ d.toInt) :
    (plus a d).toInt = min (a.toInt + d.toInt) Int32.maxValue.toInt := by
  have hd := d.toInt_lt
  have ha := a.toInt_lt
  have ha' := a.le_toInt
  have hmax : Int32.maxValue.toInt = 2 ^ 31 - 1 := Int32.toInt_maxValue
  have hsub : (Int32.maxValue - d).toInt = 2 ^ 31 - 1 - d.toInt := by
    rw [Int32.toInt_sub, hmax]
    exact Int.bmod_eq_of_le (by omega) (by omega)
  unfold plus
  split_ifs with hle <;> rw [Int32.le_iff_toInt_le, hsub] at hle
  · rw [Int32.toInt_add, Int.bmod_eq_of_le (by omega) (by omega)]
    omega
  · omega

lemma toInt_minus (a : Int32) {d : Int32} (h : 0 ≤ d.toInt) :
    (minus a d).toInt = max (a.toInt - d.toInt) Int32.minValue.toInt := by
  have hd := d.toInt_lt
  have ha := a.toInt_lt
  have ha' := a.le_toInt
  have hmin : Int32.minValue.toInt = -2 ^ 31 := Int32.toInt_minValue
  have hadd : (Int32.minValue + d).toInt = -2 ^ 31 + d.toInt := by
    rw [Int32.toInt_add, hmin]
    exact Int.bmod_eq_of_le (by omega) (by omega)
  unfold minus
  split_ifs with hle <;> rw [Int32.le_iff_toInt_le, hadd] at hle
  · rw [Int32.toInt_sub, Int.bmod_eq_of_le (by omega) (by omega)]
    omega
  · omega

/-- A sum beyond the ends is never needed: the goal is nearer. -/
lemma toInt_advance {speed : Int32} (hspeed : 0 < speed.toInt) (goal a : Int32) :
    (advance speed goal a).toInt = Path.advance speed.toInt.toNat goal.toInt a.toInt := by
  have hstride := toInt_stride hspeed (distance goal a)
  rw [toNat_distance] at hstride
  have hnonneg : 0 ≤ (stride speed (distance goal a)).toInt := hstride ▸ Int.natCast_nonneg _
  have hmax := goal.toInt_lt
  have hmin := goal.le_toInt
  unfold advance Path.advance
  simp only [Int32.lt_iff_toInt_lt]
  split_ifs
  · rw [toInt_min, toInt_plus a hnonneg, hstride, Int32.toInt_maxValue]
    omega
  · rw [toInt_max, toInt_minus a hnonneg, hstride, Int32.toInt_minValue]
    omega
  · rfl

lemma point_inj {p q : WordPoint} : p.point = q.point ↔ p = q := by
  obtain ⟨px, py⟩ := p
  obtain ⟨qx, qy⟩ := q
  simp [WordPoint.point, Int32.toInt_inj]

lemma point_next {speed : Int32} (hspeed : 0 < speed.toInt) (goal p : WordPoint) :
    (next? speed goal p).map (·.point) = Path.next? speed.toInt.toNat goal.point p.point := by
  unfold next? Path.next?
  simp only [point_inj]
  split_ifs
  · rfl
  · simp [WordPoint.point, toInt_advance hspeed]

lemma next?_eq_none {speed : Int32} {goal p : WordPoint} :
    next? speed goal p = none ↔ p = goal := by
  unfold next?
  split_ifs with h <;> simp [h]

/-- **An incremental move arrives.** Asked for its points one after the other, in words of 32 bits,
it gives those that it has in integers, so that no word wraps round, and then no more; speeds below
one act as one, so that nothing is divided by zero. There is no point if the move is at its goal;
else the goal is the last one. With each step both axes come nearer by themselves. -/
theorem words_arrive (start goal : WordPoint) (speed : Int32) :
    (max speed 1).toUInt32 ≠ 0 ∧ ∃ ps, Yields (next? (max speed 1) goal) start ps ∧
      ps.map (·.point) = points start.point goal.point speed.toInt ∧
      (ps = [] ↔ start = goal) ∧ (start ≠ goal → ps.getLast? = some goal) ∧
      (start :: ps).IsChain (fun p q => Step goal.point p.point q.point) ∧
      minStep * ps.length ≤ farthest goal.point start.point + (minStep - 1) := by
  have hone : (max speed 1).toInt = max speed.toInt 1 := toInt_max speed 1
  have hspeed : 0 < (max speed 1).toInt := by omega
  have hnext (p : WordPoint) := point_next hspeed goal p
  have hafter : after (max speed 1).toInt.toNat goal.point start.point =
      points start.point goal.point speed.toInt := by rw [hone, points, effective]
  obtain ⟨ps, hps, hmap⟩ := (yields_after _ goal.point start.point).exists_map hnext start rfl
  have hlast : ps.getLastD start = goal := next?_eq_none.mp hps.next_getLastD
  refine ⟨fun hzero => ?_, ps, hps, hmap.trans hafter, ⟨?_, fun h => ?_⟩, fun hne => ?_, ?_, ?_⟩
  · have hnat := toNat_toUInt32 (Int.le_of_lt hspeed)
    rw [hzero, UInt32.toNat_zero] at hnat
    omega
  · rintro rfl
    exact hlast
  · exact hps.eq_nil (next?_eq_none.mpr h)
  · cases ps with
    | nil => exact absurd hlast hne
    | cons q qs =>
      rw [List.getLastD_eq_getLast?] at hlast
      simpa [List.getLast?_cons] using hlast
  · refine hps.isChain fun p q hq => step_next ((hnext p).symm.trans ?_)
    rw [hq]
    rfl
  · rw [← List.length_map (·.point), hmap]
    exact length_after_le ..

end Words

end KeySynth.Path
