import KeySynth.Key.UsLayout
import KeySynth.Proofs.Modifier.Mask

/-!
The keys of the US layout, and what they type.

Every key of the layout types: none is a modifier or a lock. `char?` is what a key types, and it
undoes `key?` but for the carriage return, which shares a key with the line feed.
-/

namespace KeySynth

open Modifier

/-! ### Keys that type -/

namespace VirtualKey

/-- The letters, the digits of the numpad and the other keys of the layout. -/
def Typing (vk : VirtualKey) : Prop :=
  0x41 ≤ vk.toNat ∧ vk.toNat ≤ 0x5A ∨ 0x60 ≤ vk.toNat ∧ vk.toNat ≤ 0x69 ∨
    vk ∈ [tab, enter, space] ++ UsLayout.punctuation.map (·.1)

lemma Typing.of_letter {n : Nat} (h : 0x41 ≤ n) (h' : n ≤ 0x5A) : Typing n.toUInt8 := by
  have hn : n.toUInt8.toNat = n := Nat.mod_eq_of_lt (by omega)
  exact .inl ⟨by omega, by omega⟩

/-- The key that a digit is typed with on the numpad. -/
lemma Typing.of_digit {c : Char} (h : c.isDigit = true) :
    Typing (numpad0 + (c.toNat - '0'.toNat).toUInt8) := by
  have hdig := Char.isDigit_iff_toNat.mp h
  have hz : '0'.toNat = 48 ∧ '9'.toNat = 57 := ⟨rfl, rfl⟩
  have hn : (c.toNat - '0'.toNat).toUInt8.toNat = c.toNat - 48 := Nat.mod_eq_of_lt (by omega)
  have hv : (numpad0 + (c.toNat - '0'.toNat).toUInt8).toNat = 0x60 + (c.toNat - 48) := by
    rw [UInt8.toNat_add, hn]
    exact Nat.mod_eq_of_lt (by change 0x60 + _ < _; omega)
  exact .inr (.inl ⟨by omega, by omega⟩)

instance (vk : VirtualKey) : Decidable vk.Typing := inferInstanceAs (Decidable (_ ∨ _))

variable {vk : VirtualKey} (h : vk.Typing)
include h

lemma Typing.isLock : vk.isLock = false := by
  by_contra hl
  simp only [VirtualKey.isLock, Bool.not_eq_false, Bool.or_eq_true, beq_iff_eq] at hl
  rcases hl with (rfl | rfl) | rfl <;> exact absurd h (by decide)

lemma Typing.ofKey? : ofKey? vk = none := by
  cases hm : Modifier.ofKey? vk with
  | none => rfl
  | some m =>
    by_cases hn : vk.isNeutral = true
    · simp only [isNeutral, Bool.or_eq_true, beq_iff_eq] at hn
      rcases hn with (rfl | rfl) | rfl <;> exact absurd h (by decide)
    · obtain rfl := eq_key_of_ofKey? hm (by simpa using hn)
      cases m <;> exact absurd h (by decide)

lemma Typing.ne_zero : vk ≠ 0 := by
  rintro rfl
  exact absurd h (by decide)

end VirtualKey

namespace UsLayout

lemma typing_key? {c : Char} {t : Typed} (h : key? c = some t) : t.vk.Typing := by
  have hpunct : ∀ p ∈ punctuation, p.1.Typing := fun p hp =>
    .inr (.inr (List.mem_append_right _ (List.mem_map_of_mem hp)))
  unfold key? at h
  split_ifs at h with h1 h2
  · cases h
    have ha : 0x61 ≤ c.toNat := h1.1
    have hz : c.toNat ≤ 0x7A := h1.2
    exact .of_letter (by omega) (by omega)
  · cases h
    exact .of_letter h2.1 h2.2
  · cases h
    exact .inr (.inr (by decide))
  · cases h
    exact .inr (.inr (by decide))
  · cases h
    exact .inr (.inr (by decide))
  · obtain ⟨p, hp, ht⟩ := List.exists_of_findSome?_eq_some h
    dsimp only at ht
    split_ifs at ht <;> cases ht <;> exact hpunct p hp

/-! ### What the keys type -/

/-- The character of a key. CapsLock turns Shift round for the letters. -/
def char? (vk : VirtualKey) (shift caps : Bool) : Option Char :=
  if 0x41 ≤ vk.toNat ∧ vk.toNat ≤ 0x5A then
    some (Char.ofNat (vk.toNat + if shift = caps then 0x20 else 0))
  else if vk = .space then some ' '
  else if vk = .tab then some '\t'
  else if vk = .enter then some '\n'
  else (punctuation.lookup vk).map fun (plain, shifted) => if shift then shifted else plain

/-- **A key types the character that it is looked up for.** -/
theorem char?_key? {c : Char} {t : Typed} (h : key? c = some t) (hc : c ≠ '\r') :
    char? t.vk t.shift false = some c := by
  have hpunct : ∀ p ∈ punctuation, char? p.1 false false = some p.2.1 ∧
      char? p.1 true false = some p.2.2 := by decide
  unfold key? at h
  split_ifs at h with h1 h2 h3 h4 h5
  · cases h
    have ha : 0x61 ≤ c.toNat := h1.1
    have hz : c.toNat ≤ 0x7A := h1.2
    have hn : (c.toNat - 0x20).toUInt8.toNat = c.toNat - 0x20 := Nat.mod_eq_of_lt (by omega)
    have hletter : 0x41 ≤ c.toNat - 0x20 ∧ c.toNat - 0x20 ≤ 0x5A := by omega
    have hback : c.toNat - 0x20 + 0x20 = c.toNat := by omega
    simp only [char?, hn, hletter, and_self, if_true, hback, Char.ofNat_toNat]
  · cases h
    have ha : 0x41 ≤ c.toNat := h2.1
    have hz : c.toNat ≤ 0x5A := h2.2
    have hn : c.toNat.toUInt8.toNat = c.toNat := Nat.mod_eq_of_lt (by omega)
    simp [char?, hn, ha, hz]
  · cases h
    rw [h3]
    rfl
  · cases h
    rw [h4]
    rfl
  · cases h
    rw [h5.resolve_right hc]
    rfl
  · obtain ⟨p, hp, ht⟩ := List.exists_of_findSome?_eq_some h
    dsimp only at ht
    split_ifs at ht with hplain hshift
    · cases ht
      rw [hplain]
      exact (hpunct p hp).1
    · cases ht
      rw [hshift]
      exact (hpunct p hp).2

end UsLayout

end KeySynth
