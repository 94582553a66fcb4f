import KeySynth.Key.Name
import KeySynth.Modifier.Basic
import KeySynth.Mode

/-!
Tokens of a send text.
-/

namespace KeySynth

/-- What a key directive is about: a named key, or one character written in braces. -/
inductive KeyTarget where
  | named (key : NamedKey)
  | char (c : Char)
deriving DecidableEq, Repr

inductive KeyAction where
  /-- Down and up, so many times. -/
  | press (count : Nat)
  | down
  /-- Down, and forgotten. -/
  | downTemp
  /-- Down, and put down again at the end of every later send. -/
  | downRemap
  | up
deriving DecidableEq, Repr

/-- The key events of one turn of an action. -/
inductive KeyMotion where
  | down | up | downUp
deriving DecidableEq, Repr

namespace KeyAction

def motion : KeyAction → KeyMotion
  | press _ => .downUp
  | down | downTemp | downRemap => .down
  | up => .up

def turns : KeyAction → Nat
  | press n => n
  | _ => 1

end KeyAction

inductive ClickAction where
  | downUp | down | up
deriving DecidableEq, Repr

/-- A click, or a turn of the wheel. -/
structure ClickSpec where
  button : Button := .left
  x : Option Int := none
  y : Option Int := none
  count : Nat := 1
  action : ClickAction := .downUp
  relative : Bool := false
  /-- The speed of the move before the click, the thread's own if not given. -/
  speed : Option Int := none
deriving DecidableEq, Repr

inductive Token where
  /-- A symbol that asks for a modifier with the next key. -/
  | modifier (m : Modifier)
  | char (c : Char)
  | key (target : KeyTarget) (action : KeyAction)
  | click (spec : ClickSpec)
  | raw
  | text
  /-- A blind send, and the modifiers that it is not blind to. -/
  | blind (exclusions : Mask)
  /-- A character code typed on the numpad, its digits as written. -/
  | asc (digits : String)
  | unicode (cp : Nat)
  | invalidUnicode (directive : String)
  | unknown (directive : String)
deriving DecidableEq, Repr

namespace Token

/-- How much is literal after a token. -/
def rawAfter (mode : RawMode) : Token → RawMode
  | raw => .raw
  | text => .rawText
  | _ => mode

end Token

end KeySynth
