import KeySynth.Proofs.Script.Tokens

/-!
Texts that are to be typed as they are.

In a quoted text the characters that have a meaning are put in braces; a literal text is taken as
it is. What is read of either is its characters one by one, with line ends of either kind as line
feeds.
-/

namespace KeySynth.Script

open Token

/-- The characters that are not typed as they are. -/
def special : List Char := ['{', '}', '^', '+', '!', '#']

def quoteChar (c : Char) : List Char := if c ∈ special then ['{', c, '}'] else [c]

/-- The text that types `s`. -/
def quote (s : String) : String := String.ofList (s.toList.flatMap quoteChar)

/-- A carriage return with or without a line feed is a line feed. -/
def lineFeeds : List Char → List Char
  | [] => []
  | '\r' :: '\n' :: cs => '\n' :: lineFeeds cs
  | '\r' :: cs => '\n' :: lineFeeds cs
  | c :: cs => c :: lineFeeds cs

/-- The token of a character of the text. -/
def quoted (c : Char) : Token := if c ∈ special then .key (.char c) (.press 1) else .char c

lemma cr_not_mem_lineFeeds (cs : List Char) : '\r' ∉ lineFeeds cs := by
  fun_induction lineFeeds cs with
  | case1 => simp
  | case2 cs ih => simpa using ih
  | case3 cs _ ih => simpa using ih
  | case4 c cs _ hcr ih =>
    intro h
    rcases List.mem_cons.mp h with h | h
    · exact hcr h.symm
    · exact ih h

/-- A character in braces is a directive of its own. -/
lemma ofChars_braces {c : Char} (hc : c ∈ special) (first : Bool) (cs : List Char) :
    ofChars .notRaw first ('{' :: c :: '}' :: cs) =
      .key (.char c) (.press 1) :: ofChars .notRaw false cs := by
  have hd : directive? (c :: '}' :: cs) = some ([c], cs) := by simp [directive?]
  have ht : Directive.token first [c] = .key (.char c) (.press 1) := by
    simp only [special, List.mem_cons, List.not_mem_nil, or_false] at hc
    rcases hc with rfl | rfl | rfl | rfl | rfl | rfl <;> cases first <;> decide
  rw [ofChars_directive (by decide) hd, ht]
  rfl

/-- Any other character stands for itself. -/
lemma ofChars_plain {c : Char} (hc : c ∉ special) (hcr : c ≠ '\r') (first : Bool)
    (cs : List Char) : ofChars .notRaw first (c :: cs) = .char c :: ofChars .notRaw false cs := by
  have hs : Modifier.ofSymbol? c = none := by
    simp only [special, List.mem_cons, List.not_mem_nil, or_false, not_or] at hc
    unfold Modifier.ofSymbol?
    split <;> simp_all
  have hb : c ≠ '{' := fun h => hc (h ▸ by decide)
  rw [ofChars_ofChar (by decide) hcr hb]
  simp [ofChar, hs]

lemma ofChars_quote (first : Bool) (cs : List Char) :
    ofChars .notRaw first (cs.flatMap quoteChar) = (lineFeeds cs).map quoted := by
  fun_induction lineFeeds cs generalizing first with
  | case1 => simp [ofChars]
  | case2 cs ih =>
    have hq : ('\r' :: '\n' :: cs).flatMap quoteChar = '\r' :: '\n' :: cs.flatMap quoteChar := rfl
    rw [hq, ofChars, ih]
    rfl
  | case3 cs hlf ih =>
    have hq : ('\r' :: cs).flatMap quoteChar = '\r' :: cs.flatMap quoteChar := rfl
    rw [hq, ofChars, ih]
    · rfl
    -- no quoted character begins with a line feed but the line feed itself
    · intro cs' h
      cases cs with
      | nil => cases h
      | cons c cs =>
        rw [List.flatMap_cons, quoteChar] at h
        split_ifs at h <;> cases h
        exact hlf cs rfl
  | case4 c cs _ hcr ih =>
    by_cases hc : c ∈ special
    · have hq : (c :: cs).flatMap quoteChar = '{' :: c :: '}' :: cs.flatMap quoteChar := by
        simp [quoteChar, hc]
      rw [hq, ofChars_braces hc, ih, List.map_cons, quoted, if_pos hc]
    · have hq : (c :: cs).flatMap quoteChar = c :: cs.flatMap quoteChar := by
        simp [quoteChar, hc]
      rw [hq, ofChars_plain hc hcr, ih, List.map_cons, quoted, if_neg hc]

/-- **A quoted text is read character by character.** -/
theorem ofText_quote (s : String) :
    ofText .notRaw (quote s) = (lineFeeds s.toList).map quoted := by
  rw [ofText, quote, String.toList_ofList, ofChars_quote]

lemma ofChars_literal (first : Bool) (cs : List Char) :
    ofChars .rawText first cs = (lineFeeds cs).map .char := by
  fun_induction lineFeeds cs generalizing first with
  | case1 => rw [ofChars, List.map_nil]
  | case2 cs ih => rw [ofChars, ih, List.map_cons]
  | case3 cs hlf ih => rw [ofChars_cr hlf, ih, List.map_cons]
  | case4 c cs _ hcr ih => rw [ofChars_rawText hcr, ih, List.map_cons]

/-- **A literal text is read character by character.** -/
theorem ofText_literal (s : String) :
    ofText .rawText s = (lineFeeds s.toList).map .char := ofChars_literal true s.toList

end KeySynth.Script
