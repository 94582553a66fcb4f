import Mathlib.Tactic.Common
import KeySynth.Text.Blank
import KeySynth.Text.Number

/-!
A number that is written in decimal digits is read back, and its digits are nothing else.
-/

namespace KeySynth.Text

lemma digit?_of_isDigit {c : Char} (h : c.isDigit = true) :
    digit? 10 c = some (c.toNat - '0'.toNat) := by
  simp only [Char.isDigit, Bool.and_eq_true, decide_eq_true_eq] at h
  have hrange : '0' ≤ c ∧ c ≤ '9' := h
  have hval : c.toNat - '0'.toNat < 10 := by
    have hle : c.toNat ≤ 57 := h.2
    have hzero : '0'.toNat = 48 := rfl
    omega
  rw [digit?, if_pos hrange, Option.filter_some, if_pos (decide_eq_true hval)]

/-- Digits are read from the left, each adding itself to what has been read. -/
lemma foldlM_digit? {cs : List Char} (h : ∀ c ∈ cs, c.isDigit = true) (n : Nat) :
    cs.foldlM (fun n c => (digit? 10 c).map (n * 10 + ·)) n = some (Nat.ofDigitChars 10 cs n) := by
  induction cs generalizing n with
  | nil => rfl
  | cons c cs ih =>
    have hrest := ih (fun d hd => h d (by simp [hd])) (10 * n + (c.toNat - '0'.toNat))
    rw [List.foldlM_cons, digit?_of_isDigit (h c (by simp)), Nat.ofDigitChars_cons, ← hrest,
      Nat.mul_comm 10 n]
    rfl

lemma isDigit_toDigits {n : Nat} : ∀ c ∈ Nat.toDigits 10 n, c.isDigit = true :=
  fun _ => Nat.isDigit_of_mem_toDigits (by decide) (by decide)

lemma isBlank_of_isDigit {c : Char} (h : c.isDigit = true) : isBlank c = false := by
  simp only [Char.isDigit, Bool.and_eq_true, decide_eq_true_eq] at h
  have hlo : 48 ≤ c.toNat := h.1
  have hhi : c.toNat ≤ 57 := h.2
  have hspace : c ≠ ' ' := by
    rintro rfl
    exact absurd hlo (by decide)
  simp [isBlank, blankRanges, hspace]
  omega

lemma toLower_of_isDigit {c : Char} (h : c.isDigit = true) : c.toLower = c := by
  simp only [Char.isDigit, Bool.and_eq_true, decide_eq_true_eq] at h
  unfold Char.toLower
  rw [dif_neg]
  intro hcapital
  exact absurd (UInt32.le_trans hcapital.1 h.2) (by decide)

/-- A text without white space has none to lose. -/
lemma trim_eq {cs : List Char} (h : ∀ c ∈ cs, isBlank c = false) : trim cs = cs := by
  have hdrop : ∀ ds : List Char, (∀ c ∈ ds, isBlank c = false) → ds.dropWhile isBlank = ds := by
    intro ds hds
    cases ds with
    | nil => rfl
    | cons d ds => simp [hds d (by simp)]
  rw [trim, hdrop cs h, hdrop _ (by simpa using h), List.reverse_reverse]

lemma digits?_toDigits (n : Nat) : digits? 10 (Nat.toDigits 10 n) = some n := by
  have hfold := foldlM_digit? (isDigit_toDigits (n := n)) 0
  rw [Nat.ofDigitChars_toDigits (by decide) (by decide)] at hfold
  unfold digits?
  split
  · rename_i hnil
    exact absurd hnil Nat.toDigits_ne_nil
  · exact hfold

/-- **What is written is read back**, if there is room for it. -/
theorem natural?_toDigits (bound n : Nat) :
    natural? 10 bound (Nat.toDigits 10 n) = if n < bound then some n else none := by
  have hplus : dropPlus (Nat.toDigits 10 n) = Nat.toDigits 10 n := by
    unfold dropPlus
    split
    · rename_i cs hcs
      exact absurd (isDigit_toDigits '+' (by rw [hcs]; simp)) (by decide)
    · rfl
  rw [natural?, hplus, digits?_toDigits, Option.filter_some]
  simp only [decide_eq_true_eq]

end KeySynth.Text
