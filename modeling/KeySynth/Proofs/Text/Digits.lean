import Mathlib.Data.List.Forall2
import Mathlib.Data.Nat.Digits.Defs
import KeySynth.Text.Number

/-!
The numbers that rows of digits write.

`Writes` says what a row of digits is and which number it stands for, by the value of each digit and
its place. What is read as a number is such a row, with or without a plus sign.
-/

namespace KeySynth.Text

/-- The digit of the value `d`, letters of either case standing for ten and up. -/
def IsDigit (base : Nat) (c : Char) (d : Nat) : Prop :=
  d < base ∧ (c = Nat.digitChar d ∨ c = (Nat.digitChar d).toUpper)

/-- A row of at least one digit, and the number that it stands for. -/
def Writes (base : Nat) (cs : List Char) (n : Nat) : Prop :=
  cs ≠ [] ∧ ∃ ds, List.Forall₂ (IsDigit base) cs ds ∧ n = Nat.ofDigits base ds.reverse

/-- A number with or without a plus sign in front. -/
def WritesSigned (base : Nat) (cs : List Char) (n : Nat) : Prop :=
  Writes base cs n ∨ ∃ ds, cs = '+' :: ds ∧ Writes base ds n

variable {base : Nat} {c : Char} {cs : List Char} {d n : Nat}

lemma isDigit_of_digit? (hbase : base ≤ 16) (h : digit? base c = some d) : IsDigit base c d := by
  have hdec : ∀ k < 10, Char.ofNat (k + 48) = Nat.digitChar k := by decide
  have hlow : ∀ k < 16, 10 ≤ k → Char.ofNat (k + 87) = Nat.digitChar k := by decide
  have hcap : ∀ k < 16, 10 ≤ k → Char.ofNat (k + 55) = (Nat.digitChar k).toUpper := by decide
  have hc : c = Char.ofNat c.toNat := (Char.ofNat_toNat c).symm
  obtain ⟨hv, hd⟩ := Option.filter_eq_some_iff.mp h
  rw [decide_eq_true_eq] at hd
  refine ⟨hd, ?_⟩
  split_ifs at hv with hdigit hlower hupper
  · have hlo : 48 ≤ c.toNat := hdigit.1
    have hhi : c.toNat ≤ 57 := hdigit.2
    have hval : c.toNat - 48 = d := Option.some_inj.mp hv
    have hk : c.toNat = d + 48 := by omega
    exact .inl (hc.trans (hk ▸ hdec d (by omega)))
  · have hlo : 97 ≤ c.toNat := hlower.1
    have hval : c.toNat - 97 + 10 = d := Option.some_inj.mp hv
    have hk : c.toNat = d + 87 := by omega
    exact .inl (hc.trans (hk ▸ hlow d (by omega) (by omega)))
  · have hlo : 65 ≤ c.toNat := hupper.1
    have hval : c.toNat - 65 + 10 = d := Option.some_inj.mp hv
    have hk : c.toNat = d + 55 := by omega
    exact .inr (hc.trans (hk ▸ hcap d (by omega) (by omega)))

/-- A digit has the same value in every base that has it. -/
lemma digit?_eq_some_of_le {base' : Nat} (h : base ≤ base') :
    digit? base c = some d ↔ d < base ∧ digit? base' c = some d := by
  simp only [digit?, Option.filter_eq_some_iff, decide_eq_true_eq]
  constructor
  · rintro ⟨hv, hd⟩
    exact ⟨hd, hv, hd.trans_le h⟩
  · rintro ⟨hd, hv, -⟩
    exact ⟨hv, hd⟩

/-- What is read as a digit is one, in letters of either case. -/
lemma digit?_eq_some_iff (hbase : base ≤ 16) : digit? base c = some d ↔ IsDigit base c d := by
  have hread : ∀ k < 16, digit? 16 (Nat.digitChar k) = some k ∧
      digit? 16 (Nat.digitChar k).toUpper = some k := by decide
  refine ⟨isDigit_of_digit? hbase, fun ⟨hd, hc⟩ => ?_⟩
  refine (digit?_eq_some_of_le hbase).mpr ⟨hd, ?_⟩
  rcases hc with rfl | rfl
  · exact (hread d (hd.trans_le hbase)).1
  · exact (hread d (hd.trans_le hbase)).2

/-- Digits are read from the left, each after what has been read. -/
lemma foldlM_digit?_eq_some_iff (hbase : base ≤ 16) {read : Nat} :
    cs.foldlM (fun n c => (digit? base c).map (n * base + ·)) read = some n ↔
      ∃ ds, List.Forall₂ (IsDigit base) cs ds ∧ n = Nat.ofDigits base (ds.reverse ++ [read]) := by
  induction cs generalizing read with
  | nil => simp [eq_comm]
  | cons c cs ih =>
    -- the next digit joins what has been read
    have hnext : ∀ d ds, Nat.ofDigits base (List.reverse ds ++ [read * base + d]) =
        Nat.ofDigits base ((d :: ds).reverse ++ [read]) := fun d ds => by
      have hpair : Nat.ofDigits base [read * base + d] = Nat.ofDigits base [d, read] := by
        simp [Nat.ofDigits_cons, Nat.mul_comm, Nat.add_comm]
      rw [List.reverse_cons, List.append_assoc, List.singleton_append, Nat.ofDigits_append,
        Nat.ofDigits_append, hpair]
    simp only [List.foldlM_cons, Option.bind_eq_bind, Option.bind_eq_some_iff,
      Option.map_eq_some_iff, digit?_eq_some_iff hbase]
    constructor
    · rintro ⟨_, ⟨d, hd, rfl⟩, hrest⟩
      obtain ⟨ds, hds, rfl⟩ := ih.mp hrest
      exact ⟨d :: ds, .cons hd hds, hnext d ds⟩
    · rintro ⟨_, hds, rfl⟩
      cases hds with
      | @cons _ d _ ds hd hds => exact ⟨_, ⟨d, hd, rfl⟩, ih.mpr ⟨ds, hds, (hnext d ds).symm⟩⟩

/-- **A number is read from digits**, and is the one that they write. -/
theorem digits?_eq_some_iff (hbase : base ≤ 16) : digits? base cs = some n ↔ Writes base cs n := by
  cases cs with
  | nil => simp [digits?, Writes]
  | cons c cs =>
    have hzero : ∀ ds, Nat.ofDigits base (List.reverse ds ++ [0]) = Nat.ofDigits base ds.reverse :=
      fun ds => by rw [Nat.ofDigits_append, Nat.ofDigits_singleton, Nat.mul_zero, Nat.add_zero]
    unfold digits? Writes
    simp only [foldlM_digit?_eq_some_iff hbase, hzero, ne_eq, reduceCtorEq, not_false_eq_true,
      true_and]

/-- Nothing but digits is in a row of digits. -/
lemma Writes.not_mem (hbase : base ≤ 16) (h : Writes base cs n) (hc : digit? 16 c = none) :
    c ∉ cs := by
  obtain ⟨-, ds, hds, -⟩ := h
  have hread : ∀ d, ¬IsDigit base c d := fun d hd => by
    have hsome := (digit?_eq_some_iff (Nat.le_refl 16)).mpr ⟨hd.1.trans_le hbase, hd.2⟩
    rw [hc] at hsome
    cases hsome
  clear hc
  induction hds with
  | nil => exact List.not_mem_nil
  | @cons b d _ _ hb _ ih =>
    exact List.not_mem_cons_of_ne_of_not_mem (fun he => hread d (he ▸ hb)) ih

/-- A number below a bound is read with or without a plus sign in front. -/
theorem natural?_eq_some_iff (hbase : base ≤ 16) {bound : Nat} :
    natural? base bound cs = some n ↔ WritesSigned base cs n ∧ n < bound := by
  have hplus : ∀ ds, ¬Writes base ('+' :: ds) n := fun ds h =>
    h.not_mem (c := '+') hbase (by decide) List.mem_cons_self
  rw [natural?, Option.filter_eq_some_iff, digits?_eq_some_iff hbase, decide_eq_true_eq]
  refine and_congr_left fun _ => ?_
  unfold dropPlus WritesSigned
  split
  · simp [hplus]
  · rename_i hne
    exact ⟨.inl, fun h => h.resolve_right fun ⟨ds, hds, _⟩ => hne ds hds⟩

/-! ### The case of letters -/

lemma toUpper_eq_or (c : Char) : c.toUpper = c ∨ ∃ k < 26, c = Char.ofNat (k + 97) := by
  by_cases h : 'a' ≤ c ∧ c ≤ 'z'
  · have hlo : 97 ≤ c.toNat := h.1
    have hhi : c.toNat ≤ 122 := h.2
    refine .inr ⟨c.toNat - 97, by omega, ?_⟩
    rw [Nat.sub_add_cancel hlo, Char.ofNat_toNat]
  · exact .inl (dif_neg h)

lemma digit?_toUpper (hbase : base ≤ 16) : digit? base c.toUpper = digit? base c := by
  have hletters : ∀ k < 26, digit? 16 (Char.ofNat (k + 97)).toUpper =
      digit? 16 (Char.ofNat (k + 97)) := by decide
  have hsame : digit? 16 c.toUpper = digit? 16 c := by
    rcases toUpper_eq_or c with h | ⟨k, hk, rfl⟩
    · rw [h]
    · exact hletters k hk
  refine Option.ext fun d => ?_
  rw [digit?_eq_some_of_le hbase, digit?_eq_some_of_le hbase, hsame]

lemma dropPlus_map_toUpper (cs : List Char) :
    dropPlus (cs.map Char.toUpper) = (dropPlus cs).map Char.toUpper := by
  have hletters : ∀ k < 26, (Char.ofNat (k + 97)).toUpper ≠ '+' := by decide
  cases cs with
  | nil => rfl
  | cons c cs =>
    by_cases hc : c = '+'
    · subst hc
      rfl
    · have hupper : c.toUpper ≠ '+' := by
        rcases toUpper_eq_or c with h | ⟨k, hk, rfl⟩
        · rwa [h]
        · exact hletters k hk
      simp [dropPlus, hc, hupper]

lemma natural?_map_toUpper (hbase : base ≤ 16) (bound : Nat) (cs : List Char) :
    natural? base bound (cs.map Char.toUpper) = natural? base bound cs := by
  have hdigits : ∀ ds : List Char, digits? base (ds.map Char.toUpper) = digits? base ds := by
    intro ds
    cases ds with
    | nil => rfl
    | cons d ds => simp [digits?, List.foldlM_map, digit?_toUpper hbase]
  rw [natural?, natural?, dropPlus_map_toUpper, hdigits]

end KeySynth.Text
