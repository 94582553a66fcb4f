import KeySynth.Text.Number
import KeySynth.Text.Utf16
import KeySynth.Toml.Scan

/-!
Quoted text, on one line or on several, with or without escapes.

A text is first cut off at its closing quote, with its escapes as they are, and its escapes are
read afterwards.
-/

namespace KeySynth.Toml

/-! ### Escapes -/

/-- The character that a short escape stands for. -/
def shortEscape? : Char → Option Char
  | 'b' => some '\x08'
  | 't' => some '\t'
  | 'n' => some '\n'
  | 'f' => some '\x0c'
  | 'r' => some '\r'
  | 'e' => some '\x1b'
  | '"' => some '"'
  | '\\' => some '\\'
  | _ => none

/-- The character with so many hexadecimal digits. -/
def longEscape? (digits : List Char) : Option Char :=
  ((Text.digits? 16 digits).filter Text.isScalar).map Char.ofNat

/-- A backslash before `cs` is the last of its line. -/
def endsLine (cs : List Char) : Bool :=
  match skipGaps cs with
  | '\n' :: _ => true
  | '\r' :: '\n' :: _ => true
  | _ => false

/-- The text with its escapes read. A backslash at the end of a line goes away with all blanks
and line ends after it; `passing` among those. -/
def unescape (passing : Bool) : List Char → Option (List Char)
  | [] => some []
  | '\\' :: 'x' :: a :: b :: cs => do (← longEscape? [a, b]) :: (← unescape false cs)
  | '\\' :: 'u' :: a :: b :: c :: d :: cs => do
    (← longEscape? [a, b, c, d]) :: (← unescape false cs)
  | '\\' :: 'U' :: a :: b :: c :: d :: e :: f :: g :: h :: cs => do
    (← longEscape? [a, b, c, d, e, f, g, h]) :: (← unescape false cs)
  | '\\' :: c :: cs =>
    if endsLine (c :: cs) then unescape true cs
    else do (← shortEscape? c) :: (← unescape false cs)
  | c :: cs =>
    if c = '\\' then none
    else if passing && (isGap c || c == '\n' || c == '\r') then unescape true cs
    else (unescape false cs).map (c :: ·)

/-! ### Closing quotes -/

/-- Puts what has been read before what is read next. -/
def after (read : List Char) : Scan (List Char) → Scan (List Char)
  | .ok (s, cs) => .ok (read ++ s, cs)
  | .error f => .error f

/-- Up to the closing quote `q`; where there are escapes, a quote may be escaped. -/
def takeShort (q : Char) (escapes : Bool) : List Char → Scan (List Char)
  | [] => .error .badText
  | [c] => if c = q then .ok ([], []) else .error .badText
  | c :: d :: cs =>
    if c = q then .ok ([], d :: cs)
    else if !isPlain c then .error .badText
    else if escapes ∧ c = '\\' ∧ isPlain d then after [c, d] (takeShort q escapes cs)
    else after [c] (takeShort q escapes (d :: cs))

/-- Up to two quotes before the closing three belong to the text. -/
def takeClosing (q : Char) : List Char → List Char × List Char
  | c :: d :: cs =>
    if c = q ∧ d = q then ([q, q], cs)
    else if c = q then ([q], d :: cs)
    else ([], c :: d :: cs)
  | [c] => if c = q then ([q], []) else ([], [c])
  | [] => ([], [])

/-- Up to three closing quotes. -/
def takeLong (q : Char) (escapes : Bool) : List Char → Scan (List Char)
  | a :: b :: c :: cs =>
    if a = q ∧ b = q ∧ c = q then .ok (takeClosing q cs)
    else if escapes ∧ a = '\\' then after [a, b] (takeLong q escapes (c :: cs))
    else if isPlain a || a == '\n' || (a == '\r' && b == '\n') then
      after [a] (takeLong q escapes (b :: c :: cs))
    else .error .badText
  | _ => .error .badText

/-- The text does not begin with the line end after its opening quotes. -/
def dropFirstBreak : List Char → List Char
  | '\n' :: cs => cs
  | '\r' :: '\n' :: cs => cs
  | cs => cs

/-! ### Texts -/

def readEscapes (body : List Char) (cs : List Char) : Scan String :=
  match unescape false body with
  | some s => .ok (String.ofList s, cs)
  | none => .error .badEscape

/-- A text on one line, after its opening quote. -/
def takeLine (q : Char) (cs : List Char) : Except Fault (String × List Char) := do
  let (body, cs) ← takeShort q (q == '"') cs
  if q = '"' then readEscapes body cs else .ok (String.ofList body, cs)

/-- A text on several lines, after its opening quotes. -/
def takeLines (q : Char) (cs : List Char) : Except Fault (String × List Char) := do
  let (body, cs) ← takeLong q (q == '"') (dropFirstBreak cs)
  if q = '"' then readEscapes body cs else .ok (String.ofList body, cs)

end KeySynth.Toml
