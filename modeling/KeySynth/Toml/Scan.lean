import KeySynth.Toml.Value

/-!
Blanks, comments and line ends.
-/

namespace KeySynth.Toml

/-- A part of a document and what follows it, or what is wrong. -/
abbrev Scan (α : Type) := Except Fault (α × List Char)

def isGap (c : Char) : Bool := c == ' ' || c == '\t'

/-- A character of a key without quotes. -/
def isBareKey (c : Char) : Bool := c.isAlphanum || c == '_' || c == '-'

/-- A character that may stand in a comment or a string: no control character but the tab. -/
def isPlain (c : Char) : Bool := c == '\t' || (0x20 ≤ c.toNat && c.toNat != 0x7F)

def skipGaps (cs : List Char) : List Char := cs.dropWhile isGap

/-- Skips blanks, line ends and comments; `comment` inside of a comment. -/
def skipLines (comment : Bool) : List Char → List Char
  | [] => []
  | '\r' :: '\n' :: cs => skipLines false cs
  | '\n' :: cs => skipLines false cs
  | c :: cs =>
    if comment then if isPlain c then skipLines true cs else c :: cs
    else if isGap c then skipLines false cs
    else if c = '#' then skipLines true cs
    else c :: cs

/-- Takes a line end, which the end of the document is as well. -/
def lineBreak? : List Char → Option (List Char)
  | [] => some []
  | '\n' :: cs => some cs
  | '\r' :: '\n' :: cs => some cs
  | _ => none

/-- Takes what may stand between a value and the end of its line. -/
def lineEnd (cs : List Char) : Except Fault (List Char) :=
  let cs :=
    match skipGaps cs with
    | '#' :: cs => cs.dropWhile isPlain
    | cs => cs
  match lineBreak? cs with
  | some cs => .ok cs
  | none => .error .missingLineEnd

end KeySynth.Toml
