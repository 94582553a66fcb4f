import KeySynth.Proofs.Text.Number
import KeySynth.Proofs.Toml.Plain
import KeySynth.Toml.Term

/-!
Values of plain documents, as they are read.
-/

namespace KeySynth.Toml

open Text

/-- With a blank after it `text` is read as `v`. -/
def Reads (text : List Char) (v : Value) : Prop :=
  ∀ rest, value (skipGaps (text ++ ' ' :: rest)) = .ok (v, ' ' :: rest)

/-! ### Words -/

/-- A word that begins no date and means `v` is read as that. -/
lemma reads_bare {word : List Char} {v : Value} (hne : word ≠ [])
    (hbare : ∀ c ∈ word, isBareValue c = true) (hdate : isDate word = false)
    (hv : bareValue word = .ok v) : Reads word v := by
  intro rest
  obtain ⟨c, cs, rfl⟩ := List.exists_cons_of_ne_nil hne
  have hc : isBareValue c = true := hbare c (by simp)
  have hgap : isGap c = false := by
    simp only [isGap, Bool.or_eq_false_iff, beq_eq_false_iff_ne]
    constructor <;> rintro rfl <;> exact absurd hc (by decide)
  have hopen : c ≠ '"' ∧ c ≠ '\'' ∧ c ≠ '[' ∧ c ≠ '\x7b' := by
    refine ⟨?_, ?_, ?_, ?_⟩ <;> rintro rfl <;> exact absurd hc (by decide)
  have hspan : bareSpan (c :: cs ++ ' ' :: rest) = (c :: cs, ' ' :: rest) := by
    have hstop : isBareValue ' ' = false := by decide
    unfold bareSpan
    rw [List.takeWhile_append_of_pos hbare, List.dropWhile_append_of_pos hbare]
    simp only [List.takeWhile_cons, List.dropWhile_cons, hstop, List.append_nil, hdate,
      Bool.false_eq_true, if_false]
  have hskip : skipGaps (c :: cs ++ ' ' :: rest) = c :: cs ++ ' ' :: rest := by
    simp [skipGaps, hgap]
  rw [hskip, value]
  unfold takeValue
  -- each case but the last one opens with a quote or a bracket
  split <;> simp_all
  rfl

/-- Past its first sign a date has others, and a time has colons. -/
lemma isDate_eq_false {cs : List Char} (h : '-' ∉ cs.tail) : isDate cs = false := by
  unfold isDate
  split
  · exact absurd (by simp) h
  · rfl

lemma isTime_eq_false {cs : List Char} (h : ':' ∉ cs.tail) : isTime cs = false := by
  unfold isTime
  split
  · exact absurd (by simp) h
  · rfl

lemma isMoment_eq_false {cs : List Char} (hsign : '-' ∉ cs.tail) (hcolon : ':' ∉ cs.tail) :
    isMoment cs = false := by
  have htake : '-' ∉ (cs.take 10).tail := fun hm =>
    hsign ((List.take_sublist 10 cs).tail.subset hm)
  simp [isMoment, isTime_eq_false hcolon, isDate_eq_false hsign, isDate_eq_false htake]

/-! ### Numbers -/

lemma not_mem_of_isDigit {c : Char} {ds : List Char} (hc : c.isDigit = false)
    (h : ∀ d ∈ ds, d.isDigit = true) : c ∉ ds := fun hm => by
  rw [h c hm] at hc
  cases hc

/-- Digits without underscores are all there is to a number. -/
lemma ungroup_eq {ds : List Char} (hne : ds ≠ []) (h : '_' ∉ ds) : ungroup ds = some ds := by
  induction ds with
  | nil => exact absurd rfl hne
  | cons c cs ih =>
    rw [List.mem_cons, not_or] at h
    cases cs with
    | nil => exact if_neg (Ne.symm h.1)
    | cons d cs =>
      have hd : d ≠ '_' := fun hd => h.2 (by simp [hd])
      rw [ungroup, if_neg (Ne.symm h.1), if_neg hd, ih (by simp) h.2]
      rfl

lemma head_toDigits {n : Nat} (h : n ≠ 0) : (Nat.toDigits 10 n).head? ≠ some '0' := by
  induction n using Nat.strongRecOn with
  | _ n ih =>
    by_cases hn : n < 10
    · have hone : ∀ n < 10, n ≠ 0 → [n.digitChar].head? ≠ some '0' := by decide
      rw [Nat.toDigits_of_lt_base hn]
      exact hone n hn h
    · have hdiv : n / 10 ≠ 0 := by omega
      have hfirst := ih (n / 10) (by omega) hdiv
      rw [Nat.toDigits_of_base_le (by decide) (Nat.not_lt.mp hn)]
      obtain ⟨c, cs, hc⟩ := List.exists_cons_of_ne_nil (Nat.toDigits_ne_nil (b := 10) (n := n / 10))
      rw [hc] at hfirst ⊢
      exact hfirst

lemma isCanonical_toDigits (n : Nat) : isCanonical (Nat.toDigits 10 n) = true := by
  by_cases h : n = 0
  · subst h
    rfl
  · unfold isCanonical
    split
    · rename_i he
      exact absurd (by rw [he]; rfl) (head_toDigits h)
    · rfl

/-- A sign, or none, and digits. -/
lemma integer?_toDigits (n : Nat) :
    integer? (Nat.toDigits 10 n) = some (n : Int) ∧
      integer? ('-' :: Nat.toDigits 10 n) = some (-(n : Int)) := by
  have hdigits := isDigit_toDigits (n := n)
  have hgrouped : grouped? 10 (Nat.toDigits 10 n) = some n := by
    rw [grouped?, ungroup_eq Nat.toDigits_ne_nil (not_mem_of_isDigit (by decide) hdigits)]
    exact digits?_toDigits n
  have hcanonical := isCanonical_toDigits n
  have hbase : ∀ c cs, c.isDigit = false → Nat.toDigits 10 n ≠ '0' :: c :: cs := fun c cs hc he =>
    not_mem_of_isDigit hc hdigits (by rw [he]; simp)
  have hsign : takeSign (Nat.toDigits 10 n) = (false, Nat.toDigits 10 n) := by
    unfold takeSign
    split
    · rename_i he
      exact absurd (by rw [he]; simp) (not_mem_of_isDigit (c := '+') (by decide) hdigits)
    · rename_i he
      exact absurd (by rw [he]; simp) (not_mem_of_isDigit (c := '-') (by decide) hdigits)
    · rfl
  constructor
  · unfold integer?
    split
    · rename_i he
      exact absurd he (hbase 'x' _ (by decide))
    · rename_i he
      exact absurd he (hbase 'o' _ (by decide))
    · rename_i he
      exact absurd he (hbase 'b' _ (by decide))
    · rw [hsign]
      simp only [hcanonical, if_true, hgrouped]
      rfl
  · change (if isCanonical (Nat.toDigits 10 n) = true then
      (grouped? 10 (Nat.toDigits 10 n)).map (signed true) else none) = _
    rw [if_pos hcanonical, hgrouped]
    rfl

/-- A number of 64 bits is read as it is written. -/
theorem reads_integer {n : Int} (hlo : -0x8000000000000000 ≤ n) (hhi : n ≤ 0x7FFFFFFFFFFFFFFF) :
    Reads (toString n).toList (.integer n) := by
  have hfits : fits128 n = true := by
    have hpow : Int.pow 2 127 = 0x80000000000000000000000000000000 := by decide
    have hpow' : Int.pow 2 128 = 0x100000000000000000000000000000000 := by decide
    simp only [fits128, hpow, hpow', Bool.and_eq_true, decide_eq_true_eq]
    omega
  -- the word is digits, or a sign and digits
  obtain ⟨m, sign, hsign, hword, hread⟩ : ∃ (m : Nat) (sign : List Char),
      (sign = [] ∨ sign = ['-']) ∧ (toString n).toList = sign ++ Nat.toDigits 10 m ∧
        integer? (sign ++ Nat.toDigits 10 m) = some n := by
    cases n with
    | ofNat m =>
      exact ⟨m, [], .inl rfl, by simp [toString, Int.repr, Nat.toList_repr],
        (integer?_toDigits m).1⟩
    | negSucc m =>
      exact ⟨m + 1, ['-'], .inr rfl, by simp [toString, Int.repr, Nat.toList_repr],
        (integer?_toDigits (m + 1)).2⟩
  have hdigits := isDigit_toDigits (n := m)
  have hno : ∀ c : Char, c.isDigit = false → c ∉ (sign ++ Nat.toDigits 10 m).tail := by
    intro c hc hm
    refine not_mem_of_isDigit hc hdigits ?_
    rcases hsign with rfl | rfl
    · exact List.mem_of_mem_tail hm
    · exact hm
  have hbare : ∀ c ∈ sign ++ Nat.toDigits 10 m, isBareValue c = true := by
    intro c hc
    rcases List.mem_append.mp hc with hc | hc
    · rcases hsign with rfl | rfl
      · cases hc
      · rw [List.mem_singleton.mp hc]
        decide
    · simp [isBareValue, Char.isAlphanum, hdigits c hc]
  have hletter : 'e' ∉ sign ++ Nat.toDigits 10 m := by
    rw [List.mem_append, not_or]
    refine ⟨?_, not_mem_of_isDigit (by decide) hdigits⟩
    rcases hsign with rfl | rfl <;> decide
  rw [hword]
  refine reads_bare (by simp [Nat.toDigits_ne_nil]) hbare (isDate_eq_false (hno '-' (by decide))) ?_
  unfold bareValue
  rw [if_neg fun he => hletter (by simp [he]), if_neg fun he => hletter (by simp [he]),
    if_neg (by simp [isMoment_eq_false (hno '-' (by decide)) (hno ':' (by decide))]), hread]
  exact if_pos hfits

/-! ### Flags and texts -/

theorem reads_flag (b : Bool) : Reads (toString b).toList (.boolean b) := by
  have hbare : ∀ c ∈ (toString b).toList, isBareValue c = true :=
    List.all_eq_true.mp (by cases b <;> decide)
  cases b
  · exact reads_bare (by decide) hbare (by decide) rfl
  · exact reads_bare (by decide) hbare (by decide) rfl

lemma unescape_eq {cs : List Char} (h : ∀ c ∈ cs, isLiteral c = true) :
    unescape false cs = some cs := by
  induction cs with
  | nil => rfl
  | cons c cs ih =>
    have hc : c ≠ '\\' := by
      rintro rfl
      exact absurd (h _ List.mem_cons_self) (by decide)
    have hrest := ih fun d hd => h d (List.mem_cons_of_mem _ hd)
    unfold unescape
    split <;> simp_all

lemma takeShort_eq {cs : List Char} (h : ∀ c ∈ cs, isLiteral c = true) (d : Char)
    (rest : List Char) : takeShort '"' true (cs ++ '"' :: d :: rest) = .ok (cs, d :: rest) := by
  induction cs with
  | nil => rfl
  | cons c cs ih =>
    have hrest := ih fun d hd => h d (List.mem_cons_of_mem _ hd)
    have hc : c ≠ '"' ∧ c ≠ '\\' ∧ isPlain c = true := by
      simpa [isLiteral, and_assoc] using h c List.mem_cons_self
    obtain ⟨e, es, he⟩ : ∃ e es, cs ++ '"' :: d :: rest = e :: es := by
      cases cs <;> exact ⟨_, _, rfl⟩
    rw [he] at hrest
    rw [List.cons_append, he, takeShort, if_neg hc.1, if_neg (by simp [hc.2.2]),
      if_neg fun hesc => hc.2.1 hesc.2.1, hrest]
    rfl

/-- A text without quotes, backslashes or control characters is read as it is. -/
theorem reads_text {s : String} (h : ∀ c ∈ s.toList, isLiteral c = true) :
    Reads ("\"" ++ s ++ "\"").toList (.text s) := by
  intro rest
  have hline : takeLine '"' (s.toList ++ '"' :: ' ' :: rest) = .ok (s, ' ' :: rest) := by
    unfold takeLine
    rw [show ('"' == '"') = true from rfl, takeShort_eq h]
    change readEscapes s.toList _ = _
    rw [readEscapes, unescape_eq h]
    exact congrArg (fun t => Except.ok (t, ' ' :: rest)) String.ofList_toList
  have hshort : ∀ cs, s.toList ++ '"' :: ' ' :: rest ≠ '"' :: '"' :: cs := by
    intro cs he
    cases hs : s.toList with
    | nil => simp [hs] at he
    | cons c cs =>
      rw [hs, List.cons_append] at he
      exact absurd (h c (by simp [hs])) (by rw [(List.cons.inj he).1]; decide)
  have hlist : ("\"" ++ s ++ "\"").toList ++ ' ' :: rest =
      '"' :: (s.toList ++ '"' :: ' ' :: rest) := by simp
  have hskip : skipGaps ('"' :: (s.toList ++ '"' :: ' ' :: rest)) =
      '"' :: (s.toList ++ '"' :: ' ' :: rest) := rfl
  rw [hlist, hskip, value]
  unfold takeValue
  split
  · rename_i he
    exact absurd (List.cons.inj he).2 (hshort _)
  · rename_i he
    cases (List.cons.inj he).1
  · rename_i he
    rw [← (List.cons.inj he).2, hline]
    rfl
  · rename_i he
    cases (List.cons.inj he).1
  · rename_i he
    cases (List.cons.inj he).1
  · rename_i he
    cases (List.cons.inj he).1
  · rename_i hno _ _ _
    exact absurd rfl (hno _)

/-- What spells a value is read as that value. -/
theorem Spells.reads {text : String} {v : Value} (h : Spells text v) : Reads text.toList v := by
  cases h with
  | integer hlo hhi => exact reads_integer hlo hhi
  | flag b => exact reads_flag b
  | text hs => exact reads_text hs

end KeySynth.Toml
