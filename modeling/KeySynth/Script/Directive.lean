import KeySynth.Script.Click
import KeySynth.Text.Utf16

/-!
Directives: what is written between braces.

A directive is a name and a rest. The name runs to the first blank after its first character, so
a blank can itself be named.
-/

namespace KeySynth.Directive

open Text

def isGap (c : Char) : Bool := c == ' ' || c == '\t'

def name : List Char → List Char
  | [] => []
  | c :: cs => c :: cs.takeWhile (!isGap ·)

def rest : List Char → List Char
  | [] => []
  | _ :: cs => trim (cs.dropWhile (!isGap ·))

/-- The action of a key directive. A count may be followed by anything. -/
def action? (rest : List Char) : Option KeyAction :=
  if rest.isEmpty then some (.press 1)
  else
    match String.ofList (rest.map Char.toLower) with
    | "down" => some .down
    | "downtemp" => some .downTemp
    | "downr" => some .downRemap
    | "up" => some .up
    | _ => (natural? 10 UInt32.size (rest.takeWhile Char.isDigit)).map .press

/-- The modifiers in a list of symbols, each with its side in front or else both sides. -/
def exclusions : Option Char → List Char → Mask
  | _, [] => ∅
  | side, c :: cs =>
    if c = '<' ∨ c = '>' then exclusions (some c) cs
    else
      let here : Mask :=
        match Modifier.ofSymbol? c, side with
        | none, _ => ∅
        | some m, some '<' => {m}
        | some m, some _ => {m.right}
        | some m, none => Mask.classes {m}
      here ∪ exclusions none cs

/-- A code point of one to six hexadecimal digits. -/
def codePoint? (hex : List Char) : Option Nat :=
  if 6 < hex.length then none else (natural? 16 UInt32.size hex).filter isScalar

def isBlind (upper : List Char) : Bool := ['B', 'L', 'I', 'N', 'D'].isPrefixOf upper

/-- A key directive: a character by itself, or the name of a key. -/
def key (inner name rest : List Char) : Token :=
  match action? rest, name with
  | some a, [c] => .key (.char c) a
  | some a, _ =>
    match NamedKey.ofName? name with
    | some k => .key (.named k) a
    | none => .unknown (String.ofList inner)
  | none, _ => .unknown (String.ofList inner)

/-- The token of a directive; only the first of a text can make it blind. -/
def token (first : Bool) (inner : List Char) : Token :=
  let text := String.ofList inner
  let name := name inner
  let rest := rest inner
  let upper := name.map Char.toUpper
  if name.isEmpty then .unknown text
  else if first ∧ isBlind upper then .blind (exclusions none (name.drop 5))
  else if rest.isEmpty ∧ upper = ['R', 'A', 'W'] then .raw
  else if rest.isEmpty ∧ upper = ['T', 'E', 'X', 'T'] then .text
  else if upper = ['C', 'L', 'I', 'C', 'K'] then
    ((ClickSpec.ofOptions? rest).map .click).getD (.unknown text)
  else if upper = ['A', 'S', 'C'] then
    if !rest.isEmpty && rest.all Char.isDigit then .asc (String.ofList rest) else .unknown text
  else
    match upper with
    | 'U' :: '+' :: hex =>
      match codePoint? hex with
      | some cp => if rest.isEmpty then .unicode cp else .invalidUnicode text
      | none => .invalidUnicode text
    | _ => key inner name rest

end KeySynth.Directive
