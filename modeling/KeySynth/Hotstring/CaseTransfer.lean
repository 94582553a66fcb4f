import KeySynth.Text.Alphabetic
import KeySynth.Text.Case.Basic

/-!
Carrying the case of what was typed over to its replacement.
-/

namespace KeySynth.CaseTransfer

open Text

/-- Letter by letter: a character of the text that matches the next one typed takes the case of
the one typed after that, lower if there is none; all others stay as they are. -/
def letterwise : List Char → List Char → List Char
  | _, [] => []
  | [], c :: cs => c :: letterwise [] cs
  | t :: ts, c :: cs =>
    if lower t = lower c then
      (if ts.head?.any isCapital then upper c else lower c) ++ letterwise ts cs
    else c :: letterwise (t :: ts) cs

/-- As a whole: all capitals if several letters were typed and all were capitals, a leading
capital if the first letter was one. -/
def conform (typed text : List Char) : List Char :=
  let letters := typed.filter isLetter
  if 1 < letters.length ∧ letters.all isCapital then text.flatMap upper
  else if letters.head?.any isCapital then
    match text with
    | [] => []
    | c :: cs => upper c ++ cs
  else text

end KeySynth.CaseTransfer
