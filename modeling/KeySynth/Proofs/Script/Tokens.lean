import Mathlib.Data.List.TakeWhile
import KeySynth.Proofs.Text.Number
import KeySynth.Script.Tokens

/-!
What the tokens of a text can be.
-/

namespace KeySynth

/-- A number after the name of a key is how often it is pressed; there is a limit to that. -/
lemma Directive.action?_toDigits (n : Nat) :
    action? (Nat.toDigits 10 n) = if n < UInt32.size then some (.press n) else none := by
  have hdigits := Text.isDigit_toDigits (n := n)
  have hlower : (Nat.toDigits 10 n).map Char.toLower = Nat.toDigits 10 n :=
    (List.map_congr_left fun c hc => Text.toLower_of_isDigit (hdigits c hc)).trans
      (List.map_id _)
  have htake : (Nat.toDigits 10 n).takeWhile Char.isDigit = Nat.toDigits 10 n := by
    have happ : (Nat.toDigits 10 n ++ []).takeWhile Char.isDigit =
        Nat.toDigits 10 n ++ [].takeWhile Char.isDigit := List.takeWhile_append_of_pos hdigits
    simpa using happ
  -- none of the words has digits only
  have hword : ∀ s : String, (∃ c ∈ s.toList, c.isDigit = false) →
      String.ofList (Nat.toDigits 10 n) ≠ s := by
    rintro _ ⟨c, hc, hd⟩ rfl
    rw [String.toList_ofList] at hc
    exact absurd (hd.symm.trans (hdigits c hc)) (by decide)
  unfold action?
  rw [hlower, if_neg (by simp [Nat.toDigits_ne_nil])]
  split
  · exact absurd ‹_› (hword _ ⟨'d', by decide, by decide⟩)
  · exact absurd ‹_› (hword _ ⟨'d', by decide, by decide⟩)
  · exact absurd ‹_› (hword _ ⟨'d', by decide, by decide⟩)
  · exact absurd ‹_› (hword _ ⟨'u', by decide, by decide⟩)
  · rw [htake, Text.natural?_toDigits]
    split_ifs <;> rfl

/-- What a directive may be read as: never a character or a symbol, and blind only in front. A
character code is written in digits, and in one at least. -/
def Token.OfDirective (first : Bool) : Token → Prop
  | .char _ | .modifier _ => False
  | .blind _ => first = true
  | .asc digits => digits ≠ "" ∧ ∀ c ∈ digits.toList, c.isDigit = true
  | .key _ _ | .click _ | .raw | .text | .unicode _ | .invalidUnicode _ | .unknown _ => True

/-- A directive that is about a key, if the key is known. -/
lemma Directive.key_cases (inner name rest : List Char) :
    (∃ target action, key inner name rest = .key target action) ∨
      key inner name rest = .unknown (String.ofList inner) := by
  unfold key
  split
  · exact .inl ⟨_, _, rfl⟩
  · split
    · exact .inl ⟨_, _, rfl⟩
    · exact .inr rfl
  · exact .inr rfl

lemma Directive.ofDirective_token (first : Bool) (inner : List Char) :
    (token first inner).OfDirective first := by
  have hkey : (key inner (name inner) (rest inner)).OfDirective first := by
    rcases key_cases inner (name inner) (rest inner) with ⟨_, _, h⟩ | h <;> rw [h] <;> trivial
  unfold token
  dsimp only
  split_ifs with _ hblind _ _ _ _ hdigits
  · trivial
  · exact hblind.1
  · trivial
  · trivial
  · cases ClickSpec.ofOptions? (rest inner) <;> trivial
  · rw [Bool.and_eq_true, List.all_eq_true] at hdigits
    refine ⟨fun he => ?_, by simpa using hdigits.2⟩
    simp [String.ofList_eq_empty_iff.mp he] at hdigits
  · trivial
  -- the code points, with and without anything after them, and the keys
  · split
    · split <;> trivial
    · exact hkey
  · split
    · split <;> trivial
    · exact hkey

namespace Token

/-- Every text but the empty one has tokens. -/
lemma ofText_eq_nil {mode : RawMode} {text : String} (h : ofText mode text = []) :
    text = "" := by
  have hc : ∀ {first} {cs : List Char}, ofChars mode first cs = [] → cs = [] := by
    intro first cs hcs
    unfold ofChars at hcs
    split at hcs
    · rfl
    · cases hcs
    · cases hcs
    · split_ifs at hcs
      split at hcs <;> cases hcs
  exact String.toList_eq_nil_iff.mp (hc h)

/-! ### Where a directive ends -/

/-- A directive ends at the first closing brace after its first character. -/
lemma directive?_eq_some_iff {cs inner tail : List Char} :
    directive? cs = some (inner, tail) ↔
      ∃ c u, inner = c :: u ∧ '}' ∉ u ∧ cs = c :: (u ++ '}' :: tail) := by
  constructor
  · intro h
    cases cs with
    | nil => cases h
    | cons c cs =>
      simp only [directive?] at h
      split at h
      · cases h
      · rename_i b t hd
        cases h
        have hsplit := List.takeWhile_append_dropWhile (p := (· != '}')) (l := cs)
        have hb : b = '}' := by
          simpa [hd] using List.head_dropWhile_not (· != '}') (l := cs) (by simp [hd])
        rw [hd, hb] at hsplit
        refine ⟨c, _, rfl, fun hmem => ?_, by rw [hsplit]⟩
        simpa using List.mem_takeWhile_imp hmem
  · rintro ⟨c, u, rfl, hu, rfl⟩
    have hall : ∀ x ∈ u, (x != '}') = true := fun x hx =>
      bne_iff_ne.mpr fun he => hu (he ▸ hx)
    simp [directive?, List.takeWhile_append_of_pos hall, List.dropWhile_append_of_pos hall]

lemma directive?_append {cs inner tail : List Char} (h : directive? cs = some (inner, tail))
    (bs : List Char) : directive? (cs ++ bs) = some (inner, tail ++ bs) := by
  obtain ⟨c, u, hinner, hu, rfl⟩ := directive?_eq_some_iff.mp h
  exact directive?_eq_some_iff.mpr ⟨c, u, hinner, hu, by simp⟩

/-! ### The first token -/

section

variable {mode : RawMode} {first : Bool} {cs : List Char} {c : Char}

lemma ofChars_cr (h : ∀ cs', cs ≠ '\n' :: cs') :
    ofChars mode first ('\r' :: cs) = .char '\n' :: ofChars mode false cs :=
  ofChars.eq_3 _ _ _ h

lemma ofChars_rawText (hcr : c ≠ '\r') :
    ofChars .rawText first (c :: cs) = .char c :: ofChars .rawText false cs := by
  rw [ofChars.eq_4 _ _ _ _ (fun _ h _ => hcr h) hcr, if_pos rfl]

/-- A directive is read as one token. -/
lemma ofChars_directive (hmode : mode ≠ .rawText) {inner tail : List Char}
    (h : directive? cs = some (inner, tail)) :
    ofChars mode first ('{' :: cs) = Directive.token first inner ::
      ofChars ((Directive.token first inner).rawAfter mode) false tail := by
  rw [ofChars.eq_4 _ _ _ _ (by simp) (by simp)]
  simp only [hmode, if_false, if_true]
  split
  · rename_i heq
    cases h.symm.trans heq
    rfl
  · rename_i heq
    cases h.symm.trans heq

/-- A brace that is never closed is a character. -/
lemma ofChars_open (hmode : mode ≠ .rawText) (h : directive? cs = none) :
    ofChars mode first ('{' :: cs) = .char '{' :: ofChars mode false cs := by
  rw [ofChars.eq_4 _ _ _ _ (by simp) (by simp)]
  simp only [hmode, if_false, if_true]
  split
  · rename_i heq
    cases h.symm.trans heq
  · rfl

lemma ofChars_ofChar (hmode : mode ≠ .rawText) (hcr : c ≠ '\r') (hbrace : c ≠ '{') :
    ofChars mode first (c :: cs) = ofChar mode c :: ofChars mode false cs := by
  rw [ofChars.eq_4 _ _ _ _ (fun _ h _ => hcr h) hcr, if_neg hmode, if_neg hbrace]

end

lemma ofChar_cases (mode : RawMode) (c : Char) :
    ofChar mode c = .char c ∨ ∃ m, ofChar mode c = .modifier m := by
  unfold ofChar
  split
  · exact .inr ⟨_, rfl⟩
  · exact .inl rfl

/-- A token is a character, a symbol that asks for a modifier, or a directive. -/
lemma mem_ofChars {t : Token} {mode : RawMode} {first : Bool} {cs : List Char}
    (h : t ∈ ofChars mode first cs) :
    (∃ c, t = .char c) ∨ (∃ m, t = .modifier m) ∨
      ∃ first inner, t = Directive.token first inner := by
  fun_induction ofChars mode first cs with
  | case1 => cases h
  | case2 mode first cs ih =>
    rcases List.mem_cons.mp h with rfl | h
    · exact .inl ⟨_, rfl⟩
    · exact ih h
  | case3 mode first cs _ ih =>
    rcases List.mem_cons.mp h with rfl | h
    · exact .inl ⟨_, rfl⟩
    · exact ih h
  | case4 first c cs _ _ ih =>
    rcases List.mem_cons.mp h with rfl | h
    · exact .inl ⟨_, rfl⟩
    · exact ih h
  | case5 mode first cs _ inner tail _ _ _ _ ih =>
    rcases List.mem_cons.mp h with rfl | h
    · exact .inr (.inr ⟨first, inner, rfl⟩)
    · exact ih h
  | case6 mode first cs _ _ _ _ ih =>
    rcases List.mem_cons.mp h with rfl | h
    · exact .inl ⟨_, rfl⟩
    · exact ih h
  | case7 mode first c cs _ _ _ _ ih =>
    rcases List.mem_cons.mp h with rfl | h
    · exact (ofChar_cases mode c).imp (fun h => ⟨c, h⟩) .inl
    · exact ih h

/-- A character code is written in digits, and in one at least. -/
lemma digits_of_mem_ofText {mode : RawMode} {text digits : String}
    (h : .asc digits ∈ ofText mode text) :
    digits ≠ "" ∧ ∀ c ∈ digits.toList, c.isDigit = true := by
  rcases mem_ofChars h with ⟨c, hc⟩ | ⟨m, hm⟩ | ⟨first, inner, ht⟩
  · cases hc
  · cases hm
  · have h := Directive.ofDirective_token first inner
    rw [← ht] at h
    exact h

end Token

end KeySynth
