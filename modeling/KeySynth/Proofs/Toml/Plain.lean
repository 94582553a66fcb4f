import KeySynth.Toml.Scan
import Mathlib.Data.List.Forall2

/-!
Plain documents: one table, with a key and a value to a line.

How such a document is to be read is told by the rules of TOML 1.0 alone. Whoever relies on a reader
for no more than that may take any other in its place.
-/

namespace KeySynth.Toml

def isBare (key : String) : Bool := !key.isEmpty && key.toList.all isBareKey

/-- A character that stands for itself in a text. -/
def isLiteral (c : Char) : Bool := c != '"' && c != '\\' && isPlain c

/-- What may follow a value on its line: a blank at least, and then perhaps a comment. -/
def isTail : List Char → Bool
  | ' ' :: cs =>
    match skipGaps cs with
    | [] => true
    | '#' :: note => note.all isPlain
    | _ => false
  | _ => false

/-- How a value is written: a number of 64 bits in decimal digits, a flag by its name, and a text
in quotes as it is. -/
inductive Spells : String → Value → Prop
  | integer {n : Int} (hlo : -0x8000000000000000 ≤ n) (hhi : n ≤ 0x7FFFFFFFFFFFFFFF) :
      Spells (toString n) (.integer n)
  | flag (b : Bool) : Spells (toString b) (.boolean b)
  | text {s : String} (hs : ∀ c ∈ s.toList, isLiteral c = true) :
      Spells ("\"" ++ s ++ "\"") (.text s)

/-- What a line defines: one key, or nothing. -/
inductive Line : String → Entries → Prop
  | blank : Line "" []
  | comment {note : String} (hnote : note.toList.all isPlain = true) : Line ("#" ++ note) []
  | define {key text tail : String} {v : Value} (hkey : isBare key = true)
      (htext : Spells text v) (htail : isTail tail.toList = true) :
      Line (key ++ " = " ++ text ++ tail) [(key, v)]

/-- The reader takes in a plain document: if no two lines define the same key, it finds under each
key what its line defines, and nothing else. -/
def Reader.ReadsPlain (read : Reader) : Prop :=
  ∀ (ls : List String) (ess : List Entries), List.Forall₂ Line ls ess →
    (ess.flatten.map Prod.fst).Nodup →
      ∃ es, read (String.join (ls.map (· ++ "\n"))) = .ok es ∧
        ∀ key, es.lookup key = ess.flatten.lookup key

end KeySynth.Toml
