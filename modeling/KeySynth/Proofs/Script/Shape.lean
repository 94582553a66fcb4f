import KeySynth.Proofs.Script.Quote

/-!
The shape of the tokens of a text.

A directive can make what follows it literal, and only the first can make a text blind. So each
token fits the mode that the tokens before it have left.
-/

namespace KeySynth

open Script

namespace Token

/-- What a token may be in a mode, `first` if nothing comes before it. -/
structure Fits (mode : RawMode) (first : Bool) (t : Token) : Prop where
  blind : ∀ m, t = .blind m → first = true
  modifier : ∀ m, t = .modifier m → mode = .notRaw
  literal : mode = .rawText → ∃ c, t = .char c
  lineEnd : t ≠ .char '\r'

lemma fits_char {c : Char} (hc : c ≠ '\r') (mode : RawMode) (first : Bool) :
    Fits mode first (.char c) where
  blind _ h := by cases h
  modifier _ h := by cases h
  literal _ := ⟨c, rfl⟩
  lineEnd h := hc (char.inj h)

lemma fits_ofChar {c : Char} (hc : c ≠ '\r') {mode : RawMode} (hmode : mode ≠ .rawText)
    (first : Bool) : Fits mode first (ofChar mode c) := by
  unfold ofChar
  split
  · exact ⟨nofun, fun _ _ => rfl, fun h => absurd h hmode, nofun⟩
  · exact fits_char hc _ first

lemma fits_directive {mode : RawMode} (hmode : mode ≠ .rawText) (first : Bool)
    (inner : List Char) : Fits mode first (Directive.token first inner) := by
  have h := Directive.ofDirective_token first inner
  refine ⟨fun m hm => ?_, fun m hm => ?_, fun he => absurd he hmode, fun hc => ?_⟩
  · rw [hm] at h
    exact h
  · rw [hm] at h
    exact h.elim
  · rw [hc] at h
    exact h.elim

/-- Each token fits the mode that those before it have left. -/
inductive Shaped : RawMode → Bool → List Token → Prop where
  | nil {mode : RawMode} {first : Bool} : Shaped mode first []
  | cons {mode : RawMode} {first : Bool} {t : Token} {ts : List Token} :
      t.Fits mode first → Shaped (t.rawAfter mode) false ts → Shaped mode first (t :: ts)

lemma rawAfter_ofChar (mode : RawMode) (c : Char) : (ofChar mode c).rawAfter mode = mode := by
  rcases ofChar_cases mode c with h | ⟨m, h⟩ <;> rw [h] <;> rfl

lemma shaped_ofChars (mode : RawMode) (first : Bool) (cs : List Char) :
    Shaped mode first (ofChars mode first cs) := by
  fun_induction ofChars mode first cs with
  | case1 => exact .nil
  | case2 mode first cs ih => exact .cons (fits_char (by decide) _ _) ih
  | case3 mode first cs _ ih => exact .cons (fits_char (by decide) _ _) ih
  | case4 first c cs _ hcr ih => exact .cons (fits_char hcr _ _) ih
  | case5 mode first cs hmode inner tail _ _ _ _ ih => exact .cons (fits_directive hmode _ _) ih
  | case6 mode first cs hmode _ _ _ ih => exact .cons (fits_char (by decide) _ _) ih
  | case7 mode first c cs _ hcr hmode _ ih =>
    refine .cons (fits_ofChar hcr hmode _) ?_
    rw [rawAfter_ofChar]
    exact ih

namespace Shaped

variable {mode : RawMode} {first : Bool} {us vs : List Token} {t : Token}

/-- A token fits the mode in which it stands. -/
lemma fits (h : Shaped mode first (us ++ t :: vs)) :
    t.Fits (us.foldl rawAfter mode) (first && us.isEmpty) := by
  induction us generalizing mode first with
  | nil =>
    cases h with
    | cons ht _ => simpa using ht
  | cons u us ih =>
    cases h with
    | cons _ hrest => simpa using ih hrest

lemma of_append (h : Shaped mode first (us ++ vs)) : Shaped mode first us := by
  induction us generalizing mode first with
  | nil => exact .nil
  | cons u us ih =>
    cases h with
    | cons hu hrest => exact .cons hu (ih hrest)

/-- A literal text has characters only. -/
lemma eq_char (h : Shaped .rawText first us) (ht : t ∈ us) : ∃ c, t = .char c := by
  induction us generalizing first with
  | nil => cases ht
  | cons u us ih =>
    cases h with
    | cons hu hrest =>
      obtain ⟨c, rfl⟩ := hu.literal rfl
      rcases List.mem_cons.mp ht with rfl | ht
      · exact ⟨c, rfl⟩
      · exact ih hrest ht

end Shaped

/-- How much is literal after a list of tokens: everything after a word to that end, else all but
directives after a word to that end, else as much as before. -/
def modeAfter (mode : RawMode) (ts : List Token) : RawMode :=
  if .text ∈ ts then .rawText else if .raw ∈ ts then .raw else mode

/-- Nothing takes a word of that kind back. -/
lemma Shaped.foldl_rawAfter {mode : RawMode} {first : Bool} {ts : List Token}
    (h : Shaped mode first ts) : ts.foldl rawAfter mode = modeAfter mode ts := by
  induction h with
  | nil => rfl
  | @cons mode first t ts _ hts ih =>
    rw [List.foldl_cons, ih]
    cases t with
    | text =>
      have hraw : Token.raw ∉ ts := fun hr => by
        obtain ⟨c, hc⟩ := hts.eq_char hr
        cases hc
      simp [modeAfter, rawAfter, hraw]
    | raw => simp [modeAfter, rawAfter]
    | modifier _ | char _ | key _ _ | click _ | blind _ | asc _ | unicode _ | invalidUnicode _
    | unknown _ => simp [modeAfter, rawAfter]

/-- After the word for a literal text it is read character by character. -/
lemma ofText_text {mode : RawMode} (hmode : mode ≠ .rawText) (s : String) :
    ofText mode ("{Text}" ++ s) = .text :: (lineFeeds s.toList).map .char := by
  have hd : directive? ("Text\x7d".toList ++ s.toList) = some ("Text".toList, s.toList) := rfl
  have ht : Directive.token true "Text".toList = .text := by decide
  rw [ofText, String.toList_append]
  refine (ofChars_directive hmode hd).trans ?_
  rw [ht]
  exact congrArg _ (ofChars_literal false s.toList)

/-- **The shape of a list of tokens**: only the first is blind, no symbol counts once the symbols
are taken literally, and a literal text is its characters, with line ends as line feeds. -/
theorem shape_ofText (mode : RawMode) (text : String) :
    (∀ us m vs, ofText mode text = us ++ .blind m :: vs → us = []) ∧
    (∀ us m vs, ofText mode text = us ++ .modifier m :: vs → mode ≠ .raw ∧ .raw ∉ us) ∧
    (∀ us t vs, ofText mode text = us ++ t :: vs → mode = .rawText ∨ .text ∈ us →
      ∃ c, t = .char c) ∧
    .char '\r' ∉ ofText mode text ∧
    ofText .rawText text = (lineFeeds text.toList).map .char ∧
    (mode ≠ .rawText →
      ofText mode ("{Text}" ++ text) = .text :: (lineFeeds text.toList).map .char) := by
  have hshaped := shaped_ofChars mode true text.toList
  have hfits : ∀ {us t vs}, ofText mode text = us ++ t :: vs →
      t.Fits (modeAfter mode us) us.isEmpty := by
    intro us t vs h
    rw [ofText] at h
    rw [h] at hshaped
    rw [← hshaped.of_append.foldl_rawAfter]
    simpa using hshaped.fits
  refine ⟨fun us m vs h => ?_, fun us m vs h => ?_, fun us t vs h hlit => ?_, fun h => ?_,
    ofText_literal text, fun hmode => ofText_text hmode text⟩
  · exact List.isEmpty_iff.mp ((hfits h).blind m rfl)
  · have hplain := (hfits h).modifier m rfl
    unfold modeAfter at hplain
    split_ifs at hplain with _ hraw
    exact ⟨by simp [hplain], hraw⟩
  · rcases hlit with rfl | htext
    · exact hshaped.eq_char (h ▸ by simp : t ∈ ofText .rawText text)
    · exact (hfits h).literal (if_pos htext)
  · obtain ⟨us, vs, h⟩ := List.append_of_mem h
    exact (hfits h).lineEnd rfl

/-- After the word for a literal text no other directive counts, and the two line ends are one. -/
theorem shape_ofText_of_literal :
    RawMode.raw ≠ .rawText ∧
    ofText .raw ("{Text}" ++ "{Raw}\r\n") =
      [.text, .char '{', .char 'R', .char 'a', .char 'w', .char '}', .char '\n'] :=
  ⟨by decide, (shape_ofText .raw "{Raw}\r\n").2.2.2.2.2 (by decide)⟩

end Token

end KeySynth
