import KeySynth.Engine.Send
import KeySynth.Hotstring.CaseTransfer

/-!
Hotstrings: what was typed is erased and its replacement typed, with its case adjusted.
-/

namespace KeySynth

/-- How the replacement follows the case of what was typed. -/
inductive ReplaceCase where
  | preserve
  /-- All capitals or a leading capital carry over. -/
  | conform
  /-- Letter by letter. -/
  | letterwise
deriving DecidableEq, Repr

structure HotstringOptions where
  /-- Erase what was typed first. -/
  backspace : Bool := true
  replaceCase : ReplaceCase := .conform
  raw : RawMode := .rawText
  /-- Typed after the replacement. -/
  endChar : Option Char := none
deriving DecidableEq, Repr

namespace HotstringOptions

variable (o : HotstringOptions)

def adjust (typed replacement : String) : String :=
  match o.replaceCase with
  | .preserve => replacement
  | .conform => String.ofList (CaseTransfer.conform typed.toList replacement.toList)
  | .letterwise => String.ofList (CaseTransfer.letterwise typed.toList replacement.toList)

/-- The sends that make up a replacement. -/
def sends (typed replacement : String) : List (String × SendOptions) :=
  let n := typed.toList.length
  (if o.backspace ∧ 0 < n then [("\x7bBS " ++ toString n ++ "\x7d", .plain)] else []) ++
    [(o.adjust typed replacement, { raw := o.raw })] ++
    (match o.endChar with
     | some c => [(String.singleton c, { raw := .rawText })]
     | none => [])

end HotstringOptions

namespace Engine

variable {P : Type} [Platform P]

/-- Sends in turn, until one fails. -/
def sendAll : List (String × SendOptions) → Engine P → Except Fault Unit × Engine P
  | [], e => (.ok (), e)
  | (text, o) :: rest, e =>
    match e.send text o with
    | (.ok _, e) => sendAll rest e
    | (.error f, e) => (.error f, e)

/-- Replaces what was typed. -/
def replace (e : Engine P) (typed replacement : String) (o : HotstringOptions) :
    Except Fault Unit × Engine P :=
  e.sendAll (o.sends typed replacement)

end Engine

end KeySynth
