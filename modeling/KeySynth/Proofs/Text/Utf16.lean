import Mathlib.Tactic.Common
import KeySynth.Text.Utf16

/-!
Joining UTF-16 units.

Units come one by one, so the first half of a pair waits for the second. The units of a character
join to that character.
-/

namespace KeySynth.Text

/-- Every character is a code point that can be sent. -/
lemma isScalar_toNat (c : Char) : isScalar c.toNat = true := by
  have h := c.valid
  simp only [UInt32.isValidChar, Nat.isValidChar] at h
  simp only [isScalar, Bool.or_eq_true, Bool.and_eq_true, decide_eq_true_eq]
  exact h

/-- The characters of one more unit, the first half of a pair waiting for the second. -/
def joinUnit (half : Option UInt16) (unit : UInt16) : Option UInt16 × List Char :=
  match half with
  | some high =>
    (none, [Char.ofNat (0x10000 + (high.toNat - 0xD800) * 0x400 + (unit.toNat - 0xDC00))])
  | none =>
    if 0xD800 ≤ unit.toNat ∧ unit.toNat < 0xDC00 then (some unit, [])
    else (none, [Char.ofNat unit.toNat])

/-- Units with what waits from before. -/
def joinUnits (half : Option UInt16) : List UInt16 → Option UInt16 × List Char
  | [] => (half, [])
  | u :: us =>
    let (half, cs) := joinUnit half u
    let (half, ds) := joinUnits half us
    (half, cs ++ ds)

lemma toNat_toUInt16 {n : Nat} (h : n < 0x10000) : n.toUInt16.toNat = n :=
  UInt16.toNat_ofNat_of_lt h

lemma joinUnits_unit {cp : Nat} (h : cp < 0x10000) (hout : ¬(0xD800 ≤ cp ∧ cp < 0xDC00)) :
    joinUnits none [cp.toUInt16] = (none, [Char.ofNat cp]) := by
  simp only [joinUnits, joinUnit, if_neg hout, toNat_toUInt16 h, List.append_nil]

lemma joinUnits_pair {cp : Nat} {high low : UInt16} (h : 0x10000 ≤ cp ∧ cp < 0x110000)
    (hhigh : high.toNat = 0xD800 + (cp - 0x10000) / 0x400)
    (hlow : low.toNat = 0xDC00 + (cp - 0x10000) % 0x400) :
    joinUnits none [high, low] = (none, [Char.ofNat cp]) := by
  have hpair : 0xD800 ≤ high.toNat ∧ high.toNat < 0xDC00 := by omega
  have hsum : 0x10000 + (high.toNat - 0xD800) * 0x400 + (low.toNat - 0xDC00) = cp := by omega
  simp only [joinUnits, joinUnit, if_pos hpair, hsum, List.nil_append, List.append_nil]

/-- **The units of a code point join to its character.** -/
theorem joinUnits_utf16Units {cp : Nat} (h : isScalar cp = true) :
    joinUnits none (utf16Units cp) = (none, [Char.ofNat cp]) := by
  simp only [isScalar, Bool.or_eq_true, Bool.and_eq_true, decide_eq_true_eq] at h
  rw [utf16Units]
  split_ifs with hcp
  · exact joinUnits_unit hcp (by omega)
  · exact joinUnits_pair (by omega) (toNat_toUInt16 (by omega)) (toNat_toUInt16 (by omega))

end KeySynth.Text
