import KeySynth.Toml.Moment
import KeySynth.Toml.Number
import KeySynth.Toml.Quoted
import KeySynth.Toml.Table

/-!
Keys and values.
-/

namespace KeySynth.Toml

/-- Arrays and inline tables may be nested so deep, and a key may have so many parts. -/
def maxDepth : Nat := 80

/-! ### Keys -/

/-- A key without dots. -/
def takeSimpleKey : List Char → Except Fault (String × List Char)
  | '"' :: cs => takeLine '"' cs
  | '\'' :: cs => takeLine '\'' cs
  | cs =>
    let key := cs.takeWhile isBareKey
    if key.isEmpty then .error .badKey else .ok (String.ofList key, cs.dropWhile isBareKey)

/-- A key of at most so many parts, and what follows the blanks after it. -/
def takeKeyParts : Nat → List Char → Except Fault (List String × List Char)
  | 0, _ => .error .tooDeep
  | n + 1, cs => do
    let (k, cs) ← takeSimpleKey cs
    match skipGaps cs with
    | '.' :: cs =>
      let (ks, cs) ← takeKeyParts n (skipGaps cs)
      .ok (k :: ks, cs)
    | cs => .ok ([k], cs)

def takeKey (cs : List Char) : Except Fault (List String × List Char) :=
  takeKeyParts maxDepth cs

/-! ### Values without quotes or brackets -/

def isBareValue (c : Char) : Bool :=
  c.isAlphanum || c == '+' || c == '-' || c == '_' || c == '.' || c == ':'

/-- The characters of a bare value. A blank may divide a date from a time. -/
def bareSpan (cs : List Char) : List Char × List Char :=
  let word := cs.takeWhile isBareValue
  match isDate word, cs.dropWhile isBareValue with
  | true, ' ' :: a :: b :: ':' :: rest =>
    if a.isDigit && b.isDigit then
      let time := a :: b :: ':' :: rest
      (word ++ ' ' :: time.takeWhile isBareValue, time.dropWhile isBareValue)
    else (word, ' ' :: a :: b :: ':' :: rest)
  | _, rest => (word, rest)

def bareValue (word : List Char) : Except Fault Value :=
  if word = ['t', 'r', 'u', 'e'] then .ok (.boolean true)
  else if word = ['f', 'a', 'l', 's', 'e'] then .ok (.boolean false)
  else if isMoment word then .ok (.moment (String.ofList word))
  else
    match integer? word, float? word with
    | some n, _ => if fits128 n then .ok (.integer n) else .error .outOfRange
    | none, some true => .ok (.float (String.ofList word))
    | none, some false => .error .outOfRange
    | none, none => .error (if word.isEmpty then .badValue else .badNumber)

/-! ### Values -/

mutual

/-- A value; `steps` bounds the work and `depth` the brackets that may yet be opened. -/
def takeValue (steps depth : Nat) (cs : List Char) : Except Fault (Value × List Char) :=
  match steps with
  | 0 => .error .badValue
  | steps + 1 =>
    match cs with
    | '"' :: '"' :: '"' :: cs => do
      let (s, cs) ← takeLines '"' cs
      .ok (.text s, cs)
    | '\'' :: '\'' :: '\'' :: cs => do
      let (s, cs) ← takeLines '\'' cs
      .ok (.text s, cs)
    | '"' :: cs => do
      let (s, cs) ← takeLine '"' cs
      .ok (.text s, cs)
    | '\'' :: cs => do
      let (s, cs) ← takeLine '\'' cs
      .ok (.text s, cs)
    | '[' :: cs =>
      match depth with
      | 0 => .error .tooDeep
      | depth + 1 => do
        let (items, cs) ← takeItems steps depth (skipLines false cs)
        .ok (.array items, cs)
    | '{' :: cs =>
      match depth with
      | 0 => .error .tooDeep
      | depth + 1 => do
        let (entries, cs) ← takeFields steps depth [] (skipLines false cs)
        .ok (.table .inline entries, cs)
    | cs => do
      let (word, cs) := bareSpan cs
      .ok (← bareValue word, cs)

/-- The rest of an array. -/
def takeItems (steps depth : Nat) (cs : List Char) : Except Fault (List Value × List Char) :=
  match steps with
  | 0 => .error .unclosed
  | steps + 1 =>
    match cs with
    | ']' :: cs => .ok ([], cs)
    | cs => do
      let (v, cs) ← takeValue steps depth cs
      match skipLines false cs with
      | ',' :: cs =>
        let (vs, cs) ← takeItems steps depth (skipLines false cs)
        .ok (v :: vs, cs)
      | ']' :: cs => .ok ([v], cs)
      | _ => .error .unclosed

/-- The rest of an inline table that holds `entries` so far. -/
def takeFields (steps depth : Nat) (entries : Entries) (cs : List Char) :
    Except Fault (Entries × List Char) :=
  match steps with
  | 0 => .error .unclosed
  | steps + 1 =>
    match cs with
    | '}' :: cs => .ok (entries, cs)
    | cs => do
      let (key, cs) ← takeKey cs
      match skipLines false cs with
      | '=' :: cs =>
        let (v, cs) ← takeValue steps depth (skipLines false cs)
        let entries ← Entries.define v key entries
        match skipLines false cs with
        | ',' :: cs => takeFields steps depth entries (skipLines false cs)
        | '}' :: cs => .ok (entries, cs)
        | _ => .error .unclosed
      | _ => .error .missingEquals

end

/-- A value; each step of the work but the first goes past a character of its own. -/
def value (cs : List Char) : Except Fault (Value × List Char) :=
  takeValue (2 * cs.length + 2) maxDepth cs

end KeySynth.Toml
