import KeySynth.Mode

/-!
What a delay amounts to.

Negative delays are skipped. An injected batch cannot hold delays; a replayed one carries them
as marks, zero included.
-/

namespace KeySynth

inductive Pause where
  | none
  /-- A mark inside a replayed batch. -/
  | mark (ms : Nat)
  /-- Nothing else happens meanwhile. -/
  | sleep (ms : Nat)
  /-- Messages keep flowing meanwhile. -/
  | wait (ms : Nat)
deriving DecidableEq, Repr

namespace Backend

def keyPause (b : Backend) (delay : Int) : Pause :=
  if delay < 0 then .none
  else
    match b with
    | input => .none
    | play => .mark delay.toNat
    | event => if delay = 0 then .none else .sleep delay.toNat

/-- From this many milliseconds on a mouse delay is waited out. -/
def mouseWaitThreshold : Int := 11

def mousePause (b : Backend) (delay : Int) : Pause :=
  match b.keyPause delay with
  | .sleep ms => if mouseWaitThreshold ≤ delay then .wait ms else .sleep ms
  | p => p

end Backend

namespace SendMode

/-- A mode that has yet to be resolved pauses nowhere. -/
def keyPause (m : SendMode) (delay : Int) : Pause :=
  match m.backend? with
  | some b => b.keyPause delay
  | none => .none

def mousePause (m : SendMode) (delay : Int) : Pause :=
  match m.backend? with
  | some b => b.mousePause delay
  | none => .none

end SendMode

end KeySynth
