import KeySynth.Engine.Interpret
import KeySynth.Script.Tokens

/-!
Sending a text.

A send takes the modifiers from the system, types the text, and puts back what was held: what
texts have put down, what the user is holding and, if blind, what was down before.
-/

namespace KeySynth

/-- The modifiers that a blind send is not blind to. -/
def Token.exclusions : List Token → Option Mask
  | .blind m :: _ => some m
  | _ => none

namespace Engine

variable {P : Type} [Platform P] (e : Engine P)

/-- A hotkey's modifiers may still be held. -/
def hotkeyFresh : Bool :=
  if e.hotkeyTimeout < 0 then true
  else
    match e.ledger.hotkeyStart with
    | none => false
    | some start => (Platform.now e.platform - start : Nat) < millisecond * e.hotkeyTimeout

/-- What the user is holding, as far as can be told. -/
def guessHeld : Mask :=
  if Platform.hasHook e.platform then Platform.physical e.platform
  else if e.hotkeyFresh then e.ledger.logical
  else ∅

/-- What the hook has seen the user hold. -/
def seenPhysical : Mask :=
  if Platform.hasHook e.platform then Platform.physical e.platform else ∅

end Engine

namespace Run

variable {P : Type} [Platform P] (r : Run P)

/-- Looks around before the first token. -/
def enter (exclusions : Option Mask) : Run P :=
  let ledger := r.ledger.refreshPersistent (r.seenPhysical ∩ r.ledger.logical)
  { r with
    ledger
    estimate := r.guessHeld
    blind := exclusions.isSome
    blindBase := (exclusions.map (r.ledger.logical \ ·)).getD ∅ }

/-- CapsLock is on and has to be off while keys are typed. -/
def storesCapsLock : Bool :=
  !r.blind && r.settings.storeCapsLock && Platform.isToggled r.platform .capsLock

/-- What is to be down after the text. -/
def restored : Mask :=
  r.ledger.persistent ∪ r.ledger.remapped ∪ r.estimate ∪ r.blindBase

/-- Switches CapsLock off if it has to be. -/
def storeCapsLock : Run P := if r.storesCapsLock then r.tapLock .capsLock else r

/-- Puts back the modifiers, and CapsLock if it was switched off. -/
def putBack (capsLock : Bool) : Run P :=
  let r := r.reconcile r.restored .both
  if capsLock then r.tapLock .capsLock else r

/-- Ends a send: a batch is dropped whole after a fault; otherwise modifiers and CapsLock are put
back and the batch is sent. -/
def leave (capsLock : Bool) : Run P :=
  if r.fault.isSome && r.batch.isSome then r.discard else (r.putBack capsLock).flush

/-- The whole text. -/
def type (ts : List Token) : Run P := (r.storeCapsLock.interpret ts).leave r.storesCapsLock

end Run

namespace Engine

variable {P : Type} [Platform P] (e : Engine P)

/-- The run of a text's tokens before anything is sent. -/
def opened (ts : List Token) (o : SendOptions) : Run P :=
  (e.resync.start (o.mode.getD e.settings.sendMode) o.raw o.target).enter (Token.exclusions ts)

/-- The run of a text's tokens. -/
def sendRun (ts : List Token) (o : SendOptions) : Run P := (e.opened ts o).type ts

/-- Sends a text; one without tokens does nothing at all. -/
def send (text : String) (o : SendOptions) : Except Fault Unit × Engine P :=
  let ts := Token.ofText o.raw text
  if ts.isEmpty then (.ok (), e) else (e.sendRun ts o).outcome

end Engine

end KeySynth
