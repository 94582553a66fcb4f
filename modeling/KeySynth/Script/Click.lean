import KeySynth.Script.Token
import KeySynth.Text.Blank

/-!
Options of a click directive: numbers, words and a button in any order.

One number is a count, two are a point, a third beside a point is a count.
-/

namespace KeySynth.ClickSpec

open Text

/-- One option that is not a number. -/
def withWord (spec : ClickSpec) (word : List Char) : Option ClickSpec :=
  let upper := String.ofList (word.map Char.toUpper)
  if upper = "DOWN" ∨ upper = "D" then some { spec with action := .down }
  else if upper = "UP" ∨ upper = "U" then some { spec with action := .up }
  else if upper = "REL" ∨ upper = "RELATIVE" then some { spec with relative := true }
  else (Button.ofCapitals? upper).map fun b => { spec with button := b }

def withNumbers (spec : ClickSpec) : List Int → ClickSpec
  | [] => spec
  | [n] => { spec with count := n.toNat }
  | [x, y] => { spec with x := some x, y := some y }
  | x :: y :: n :: _ => { spec with x := some x, y := some y, count := n.toNat }

def ofParts? : List (List Char) → ClickSpec → List Int → Option ClickSpec
  | [], spec, ns => some (spec.withNumbers ns)
  | p :: ps, spec, ns =>
    match integer? p with
    | some n => ofParts? ps spec (ns ++ [n])
    | none => (spec.withWord p).bind fun spec => ofParts? ps spec ns

/-- The click that the options describe. -/
def ofOptions? (options : List Char) : Option ClickSpec :=
  let parts := (split (fun c => c == ',' || isBlank c) options).filter (!·.isEmpty)
  ofParts? parts {} []

end KeySynth.ClickSpec
