/-!
Values of a TOML document.

A table remembers how it came to be, since that decides what may still be added to it.
-/

namespace KeySynth.Toml

/-- What is wrong with a document. -/
inductive Fault where
  | badKey | badText | badEscape | badNumber | badValue | badHeader | missingEquals
  | missingLineEnd | unclosed | tooDeep | outOfRange
  | redefined (key : String)
deriving DecidableEq, Repr

def Fault.message : Fault → String
  | badKey => "invalid key"
  | badText => "invalid string"
  | badEscape => "invalid escape sequence"
  | badNumber => "invalid number"
  | badValue => "invalid value"
  | badHeader => "invalid table header"
  | missingEquals => "key with no value, expected an equals sign"
  | missingLineEnd => "unexpected text after a value"
  | unclosed => "unclosed array or inline table"
  | tooDeep => "nested too deeply"
  | outOfRange => "number out of range"
  | redefined key => "duplicate key " ++ key

/-- How a table came to be. -/
inductive Origin where
  /-- By a header of its own. -/
  | header
  /-- By a header of a table inside it. -/
  | implied
  /-- By a dotted key. -/
  | dotted
  /-- Written as a value; nothing can be added. -/
  | inline
deriving DecidableEq, Repr

inductive Value where
  | text (s : String)
  | integer (n : Int)
  | float (literal : String)
  | boolean (b : Bool)
  /-- A date, a time or both. -/
  | moment (literal : String)
  | array (items : List Value)
  | table (origin : Origin) (entries : List (String × Value))
  /-- Tables under one header, the latest last. -/
  | tables (items : List (List (String × Value)))

/-- What a table holds, in the order of the document. -/
abbrev Entries := List (String × Value)

/-- A reader of documents: what the root table of a text holds, or what is wrong with the text. -/
abbrev Reader := String → Except String Entries

end KeySynth.Toml
