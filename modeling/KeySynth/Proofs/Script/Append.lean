import KeySynth.Proofs.Script.Shape

/-!
Texts one after the other.

A text whose braces are all closed is read for itself, whatever stands behind it; only a line end
must not be cut in two. What stands behind it is read in the mode that it leaves, and is no longer
in front, so it cannot be blind.
-/

namespace KeySynth

/-! ### A blind directive that is not in front -/

/-- No key has a name that begins like the word for a blind text. -/
lemma NamedKey.ofCapitals?_of_isBlind {upper : List Char} (h : Directive.isBlind upper = true) :
    ofCapitals? upper = none := by
  have hlookup : ∀ {α : Type} (table : List (String × α)),
      (∀ p ∈ table, Directive.isBlind p.1.toList = false) →
      table.lookup (String.ofList upper) = none := by
    intro α table htable
    refine List.lookup_eq_none_iff.mpr fun p hp => bne_iff_ne.mpr fun he => ?_
    have hp' := htable p hp
    rw [← he, String.toList_ofList, h] at hp'
    cases hp'
  have hbutton : Button.ofCapitals? (String.ofList upper) = none := hlookup _ (by decide +kernel)
  have hname : keyNames.lookup (String.ofList upper) = none := hlookup _ (by decide +kernel)
  obtain ⟨rest, rfl⟩ := List.isPrefixOf_iff_prefix.mp h
  rw [ofCapitals?, hbutton]
  exact hname

namespace Directive

lemma key_of_isBlind {inner name rest : List Char} (h : isBlind (name.map Char.toUpper) = true) :
    key inner name rest = .unknown (String.ofList inner) := by
  have hofName : NamedKey.ofName? name = none := NamedKey.ofCapitals?_of_isBlind h
  unfold key
  split
  · simp [isBlind, List.isPrefixOf] at h
  · rw [hofName]
  · rfl

lemma token_of_isBlind {inner : List Char} (h : isBlind ((name inner).map Char.toUpper) = true) :
    token false inner = .unknown (String.ofList inner) := by
  have hkey : key inner (name inner) (rest inner) = .unknown (String.ofList inner) :=
    key_of_isBlind h
  obtain ⟨more, hmore⟩ := List.isPrefixOf_iff_prefix.mp h
  unfold token
  simp only [← hmore, hkey]
  simp

/-- A directive is the same everywhere unless it is blind in front. -/
lemma token_false (inner : List Char) : token false inner =
    match token true inner with
    | .blind _ => .unknown (String.ofList inner)
    | t => t := by
  by_cases h : isBlind ((name inner).map Char.toUpper) = true
  · have hne : (name inner).isEmpty = false := by
      cases hn : name inner with
      | nil => simp [hn, isBlind] at h
      | cons c cs => rfl
    have hblind : token true inner = .blind (exclusions none ((name inner).drop 5)) := by
      simp [token, hne, h]
    rw [hblind, token_of_isBlind h]
  · have hsame : token true inner = token false inner := by simp [token, h]
    have hfits := ofDirective_token false inner
    rw [hsame]
    split
    · rename_i m hm
      rw [hm] at hfits
      cases hfits
    · rfl

end Directive

namespace Token

/-! ### Braces and line ends -/

/-- A brace that is never closed is a character, so a brace among the characters is literal. -/
def Closed (mode : RawMode) (ts : List Token) : Prop :=
  mode = .rawText ∨ ∀ us vs, ts = us ++ .char '{' :: vs → .text ∈ us

lemma Closed.tail {mode : RawMode} {first : Bool} {t : Token} {ts : List Token}
    (h : Closed mode (t :: ts)) (hfits : t.Fits mode first) : Closed (t.rawAfter mode) ts := by
  rcases h with rfl | h
  · obtain ⟨c, rfl⟩ := hfits.literal rfl
    exact .inl rfl
  · by_cases ht : t = .text
    · subst ht
      exact .inl rfl
    · refine .inr fun us vs hts => ?_
      have hmem := h (t :: us) vs (by rw [hts]; rfl)
      exact (List.mem_cons.mp hmem).resolve_left (Ne.symm ht)

lemma not_closed_brace {mode : RawMode} (hmode : mode ≠ .rawText) (ts : List Token) :
    ¬Closed mode (.char '{' :: ts) := by
  rintro (h | h)
  · exact hmode h
  · cases h [] ts rfl

/-- The line end between the two is cut in two. -/
def CutsLineEnd (as bs : List Char) : Prop := as.getLast? = some '\r' ∧ bs.head? = some '\n'

lemma CutsLineEnd.append {as bs : List Char} (h : CutsLineEnd as bs) (us : List Char) :
    CutsLineEnd (us ++ as) bs :=
  ⟨by simp [List.getLast?_append, h.1], h.2⟩

/-! ### The two texts -/

/-- The second text is never in front. -/
lemma ofChars_append {mode : RawMode} {first : Bool} {as bs : List Char}
    (hfront : as = [] → first = false) (hclosed : Closed mode (ofChars mode first as))
    (hcut : ¬CutsLineEnd as bs) :
    ofChars mode first (as ++ bs) = ofChars mode first as ++
      ofChars ((ofChars mode first as).foldl rawAfter mode) false bs := by
  have hshaped := shaped_ofChars mode first as
  fun_induction ofChars mode first as with
  | case1 mode first => rw [hfront rfl]; rfl
  | case2 mode first as ih =>
    cases hshaped with | cons hfits hshaped
    have hcut' : ¬CutsLineEnd as bs := fun h => hcut (h.append ['\r', '\n'])
    exact (ofChars.eq_2 ..).trans
      (congrArg _ (ih (fun _ => rfl) (hclosed.tail hfits) hcut' hshaped))
  | case3 mode first as hlf ih =>
    cases hshaped with | cons hfits hshaped
    have hcut' : ¬CutsLineEnd as bs := fun h => hcut (h.append ['\r'])
    -- a line feed behind the carriage return could only be one of the second text
    have hlf' : ∀ cs, as ++ bs ≠ '\n' :: cs := by
      rintro cs hcs
      cases as with
      | nil => exact hcut ⟨rfl, by rw [List.nil_append] at hcs; rw [hcs]; rfl⟩
      | cons c as => exact hlf as (by rw [(List.cons.inj hcs).1])
    exact (ofChars_cr hlf').trans
      (congrArg _ (ih (fun _ => rfl) (hclosed.tail hfits) hcut' hshaped))
  | case4 first c as _ hcr ih =>
    cases hshaped with | cons hfits hshaped
    have hcut' : ¬CutsLineEnd as bs := fun h => hcut (h.append [c])
    exact (ofChars_rawText hcr).trans
      (congrArg _ (ih (fun _ => rfl) (hclosed.tail hfits) hcut' hshaped))
  | case5 mode first as hmode inner tail hd _ _ _ ih =>
    cases hshaped with | cons hfits hshaped
    obtain ⟨c, u, -, -, has⟩ := directive?_eq_some_iff.mp hd
    have hcut' : ¬CutsLineEnd tail bs := fun h =>
      hcut (has ▸ by simpa using h.append ('{' :: c :: (u ++ ['}'])))
    exact (ofChars_directive hmode (directive?_append hd bs)).trans
      (congrArg _ (ih (fun _ => rfl) (hclosed.tail hfits) hcut' hshaped))
  | case6 mode first as hmode _ _ _ ih => exact absurd hclosed (not_closed_brace hmode _)
  | case7 mode first c as _ hcr hmode hbrace ih =>
    cases hshaped with | cons hfits hshaped
    have hcut' : ¬CutsLineEnd as bs := fun h => hcut (h.append [c])
    have hclosed' := hclosed.tail hfits
    have hsame := rawAfter_ofChar mode c
    rw [hsame] at hclosed' hshaped
    rw [List.cons_append, ofChars_ofChar hmode hcr hbrace,
      ih (fun _ => rfl) hclosed' hcut' hshaped, List.foldl_cons, hsame]
    rfl

/-- The text of the directive that a text begins with. -/
def leading : List Char → List Char
  | '{' :: cs => ((directive? cs).map Prod.fst).getD []
  | _ => []

/-- The tokens of a text that stands behind another: its first is not blind. -/
def ofLaterText (mode : RawMode) (text : String) : List Token :=
  match ofText mode text with
  | .blind _ :: ts => .unknown (String.ofList (leading text.toList)) :: ts
  | ts => ts

lemma ofLaterText_eq (mode : RawMode) (text : String) :
    ofLaterText mode text = ofChars mode false text.toList := by
  unfold ofLaterText ofText
  generalize text.toList = cs
  fun_cases ofChars mode true cs with
  | case1 => rw [ofChars]
  | case2 cs => exact (ofChars.eq_2 ..).symm
  | case3 cs hlf => exact (ofChars_cr hlf).symm
  | case4 c cs _ hcr hmode =>
    subst hmode
    exact (ofChars_rawText hcr).symm
  | case5 cs hmode inner tail hd t =>
    have hleading : leading ('{' :: cs) = inner := by rw [leading, hd]; rfl
    simp only [ofChars_directive hmode hd, Directive.token_false, hleading, t]
    cases Directive.token true inner <;> rfl
  | case6 cs hmode hd => exact (ofChars_open hmode hd).symm
  | case7 c cs _ hcr hmode hbrace =>
    rw [ofChars_ofChar hmode hcr hbrace]
    rcases ofChar_cases mode c with h | ⟨m, h⟩ <;> rw [h]

/-- **The tokens of two texts, one after the other**, are those of the first and those of the
second, read in the mode that the first leaves. -/
theorem ofText_append {mode : RawMode} {a b : String} (ha : a ≠ "")
    (hclosed : Closed mode (ofText mode a)) (hcut : ¬CutsLineEnd a.toList b.toList) :
    ofText mode (a ++ b) =
      ofText mode a ++ ofLaterText (modeAfter mode (ofText mode a)) b := by
  have hfront : a.toList = [] → true = false := fun he =>
    absurd (String.toList_eq_nil_iff.mp he) ha
  have h := ofChars_append hfront hclosed hcut
  rw [(shaped_ofChars mode true a.toList).foldl_rawAfter, ← ofLaterText_eq] at h
  rw [ofText, String.toList_append]
  exact h

/-- A word for a blind text that is no longer in front is not known, and its line end stays one. -/
theorem ofText_append_of_raw :
    "{Raw}^\r" ≠ "" ∧ Closed .notRaw (ofText .notRaw "{Raw}^\r") ∧
    ¬CutsLineEnd "{Raw}^\r".toList "{Blind!}+".toList ∧
    ofText .notRaw ("{Raw}^\r" ++ "{Blind!}+") =
      [.raw, .char '^', .char '\n', .unknown "Blind!", .char '+'] := by
  have hclosed : Closed .notRaw (ofText .notRaw "{Raw}^\r") := by
    refine .inr fun us vs h => ?_
    have hmem : Token.char '{' ∈ ofText .notRaw "{Raw}^\r" := by simp [h]
    exact absurd hmem (by decide +kernel)
  have hcut : ¬CutsLineEnd "{Raw}^\r".toList "{Blind!}+".toList := fun h => nomatch h.2
  refine ⟨by decide, hclosed, hcut, ?_⟩
  rw [ofText_append (by decide) hclosed hcut]
  decide +kernel

/-! ### The first tokens of a text -/

end Token

end KeySynth
