import KeySynth.Engine.Emit

/-!
Bringing the modifiers to where they are wanted.
-/

namespace KeySynth.Run

variable {P : Type} [Platform P] (r : Run P)

/-- A modifier's own key goes down or up. -/
def emitModifier (m : Modifier) (up : Bool) : Run P := r.emitKey m.key m.scan up r.tag

/-- The mask key moves a modifier that is down. -/
def maskHeld : Bool := r.ledger.logical.meets (Mask.ofKey r.maskKey.1)

/-- A plan under way; a tap of the mask key that has begun may have to be left out. -/
structure Playing (P : Type) where
  run : Run P
  skipped : Bool

/-- One step of a plan. A mask key that is already down is not tapped, as the tap would leave it
up. -/
def Playing.step (s : Playing P) : Step → Playing P
  | .press m => { s with run := s.run.emitModifier m false }
  | .release m => { s with run := s.run.emitModifier m true }
  | .maskDown => if s.run.maskHeld then { s with skipped := true } else ⟨s.run.maskDown, false⟩
  | .maskUp => ⟨if s.skipped then s.run else s.run.maskUp, false⟩

def playSteps (steps : List Step) : Run P := (steps.foldl Playing.step ⟨r, false⟩).run

/-- Makes `desired` the logical modifiers, with what AltGr adds to them. -/
def reconcile (desired : Mask) (disguise : Disguise) : Run P :=
  let plan := Plan.make desired r.ledger.logical r.altgr disguise
  if plan.isEmpty then r
  else
    let r := r.playSteps plan.steps
    if r.backend = .input then r else r.pressPause

/-- Makes ready for the next key. -/
def ready : Run P := r.reconcile r.wanted .both

end KeySynth.Run
