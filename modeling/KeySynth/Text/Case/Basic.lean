import KeySynth.Text.Case.Capital
import KeySynth.Text.Case.Lower
import KeySynth.Text.Case.Upper

/-!
The case of characters, by the full mappings of Unicode: a character may become several.
-/

namespace KeySynth.Text

/-- A character by its spelling if it has one, else by its run, else as it is. -/
def mapCase (spellings : List (Nat × List Nat)) (runs : List CaseRun) (c : Char) : List Char :=
  match spellings.lookup c.toNat with
  | some cps => cps.map Char.ofNat
  | none =>
    match runs.find? (·.has c.toNat) with
    | some r => [Char.ofNat (r.map c.toNat)]
    | none => [c]

def lower (c : Char) : List Char :=
  if c.toNat < 0x80 then [c.toLower] else mapCase lowerSpellings lowerRuns c

def upper (c : Char) : List Char :=
  if c.toNat < 0x80 then [c.toUpper] else mapCase upperSpellings upperRuns c

def isCapital (c : Char) : Bool :=
  if c.toNat < 0x80 then c.isUpper else capitalRuns.any (·.has c.toNat)

end KeySynth.Text
