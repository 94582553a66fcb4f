import KeySynth.Script.Directive

/-!
The tokens of a send text.

Outside of a literal text a brace opens a directive, which ends at the next closing brace after
its first character. A brace that is never closed is a character. Line ends of either kind
become line feeds.
-/

namespace KeySynth.Token

/-- The directive after an opening brace, and what follows it. -/
def directive? : List Char → Option (List Char × List Char)
  | [] => none
  | c :: cs =>
    match cs.dropWhile (· != '}') with
    | [] => none
    | _ :: tail => some (c :: cs.takeWhile (· != '}'), tail)

theorem directive?_shorter {cs inner tail : List Char} (h : directive? cs = some (inner, tail)) :
    tail.length < cs.length := by
  cases cs with
  | nil => cases h
  | cons c cs =>
    simp only [directive?] at h
    split at h
    · cases h
    · rename_i b t hd
      cases h
      have : (cs.dropWhile (· != '}')).length ≤ cs.length :=
        List.Sublist.length_le (List.dropWhile_sublist _)
      rw [hd] at this
      simp only [List.length_cons] at this ⊢
      omega

/-- A character where a directive cannot start. -/
def ofChar (mode : RawMode) (c : Char) : Token :=
  match mode, Modifier.ofSymbol? c with
  | .notRaw, some m => .modifier m
  | _, _ => .char c

/-- The tokens of `cs`, read in a mode, `first` if nothing comes before them. -/
def ofChars (mode : RawMode) (first : Bool) : List Char → List Token
  | [] => []
  | '\r' :: '\n' :: cs => .char '\n' :: ofChars mode false cs
  | '\r' :: cs => .char '\n' :: ofChars mode false cs
  | c :: cs =>
    if mode = .rawText then .char c :: ofChars mode false cs
    else if c = '{' then
      match _h : directive? cs with
      | some (inner, tail) =>
        let t := Directive.token first inner
        t :: ofChars (t.rawAfter mode) false tail
      | none => .char '{' :: ofChars mode false cs
    else ofChar mode c :: ofChars mode false cs
termination_by cs => cs.length
decreasing_by
  all_goals simp only [List.length_cons]
  all_goals try omega
  all_goals exact Nat.lt_succ_of_lt (directive?_shorter ‹_›)

/-- The tokens of a text. -/
def ofText (mode : RawMode) (text : String) : List Token := ofChars mode true text.toList

end KeySynth.Token
