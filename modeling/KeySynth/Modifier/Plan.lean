import KeySynth.Modifier.Basic

/-!
Plans that take the modifiers held down from one set to another.

A Win or Alt key that goes up with nothing pressed since it went down opens the Start menu or
the menu bar. Where that could happen a plan taps the mask key around the change. On a layout
with AltGr the right Alt key drags the left Control key along.
-/

namespace KeySynth

/-- One step of a plan. -/
inductive Step where
  | press (m : Modifier)
  | release (m : Modifier)
  | maskDown
  | maskUp
deriving DecidableEq, Repr

/-- Which changes of Win and Alt a plan may disguise with the mask key. -/
structure Disguise where
  down : Bool
  up : Bool
deriving DecidableEq, Repr

namespace Disguise

def both : Disguise := ⟨true, true⟩
def downOnly : Disguise := ⟨true, false⟩
def upOnly : Disguise := ⟨false, true⟩
def none : Disguise := ⟨false, false⟩

end Disguise

/-- The modifiers that go down or up together with `m`. -/
def Modifier.drags (altgr : Bool) (m : Modifier) : Mask :=
  if altgr ∧ m = .ralt then {m} ∪ {.lctrl} else {m}

/-- What a step leaves held down. -/
def Step.apply (altgr : Bool) (held : Mask) : Step → Mask
  | press m => held ∪ m.drags altgr
  | release m => held \ m.drags altgr
  | maskDown | maskUp => held

/-- What steps taken in order leave held down. -/
def replay (altgr : Bool) (held : Mask) (steps : List Step) : Mask :=
  steps.foldl (Step.apply altgr) held

theorem replay_append (altgr : Bool) (held : Mask) (u v : List Step) :
    replay altgr held (u ++ v) = replay altgr (replay altgr held u) v := by
  simp [replay, List.foldl_append]

/-- The set that holds once `wanted` has been asked for. -/
def Mask.settled (altgr : Bool) (wanted : Mask) : Mask :=
  if altgr ∧ .ralt ∈ wanted then wanted ∪ {.lctrl} else wanted

structure Plan where
  steps : List Step
  result : Mask
deriving DecidableEq, Repr

namespace Plan

def isEmpty (p : Plan) : Bool := p.steps.isEmpty

/-- A change of the modifiers: from `old` to `new`, which is settled. -/
structure Change where
  old : Mask
  new : Mask
  altgr : Bool
  disguise : Disguise

namespace Change

variable (c : Change)

def releases (m : Modifier) : Prop := m ∈ c.old ∧ m ∉ c.new
def presses (m : Modifier) : Prop := m ∉ c.old ∧ m ∈ c.new

instance (m : Modifier) : Decidable (c.releases m) := inferInstanceAs (Decidable (_ ∧ _))
instance (m : Modifier) : Decidable (c.presses m) := inferInstanceAs (Decidable (_ ∧ _))

def ctrlUp : Bool := !c.old.meets .ctrl

def ctrlStaysUp : Bool := !c.new.meets .ctrl

/-- No Ctrl, Shift or Alt is down that would keep a Win release quiet. -/
def bare : Bool := c.ctrlUp && !c.old.meets (.shift ∪ .alt)

/-- Win goes up last, once another modifier is down. -/
def defersWin : Bool := c.bare && (!c.ctrlStaysUp || c.new.meets (.shift ∪ .alt))

/-- Alt goes up last, once Ctrl is down. -/
def defersAlt : Bool := c.ctrlUp && !c.ctrlStaysUp

/-- Shift goes up before Alt or Ctrl goes down, as Alt+Shift and Ctrl+Shift switch layouts. -/
def shiftFirst : Bool := c.defersAlt || (!c.old.meets .alt && c.new.meets .alt)

end Change

/-- A plan being written: the steps so far and what they leave held down. -/
structure Draft where
  steps : List Step
  held : Mask

namespace Draft

variable (c : Change) (d : Draft)

def add (s : Step) : Draft := ⟨d.steps ++ [s], s.apply c.altgr d.held⟩

/-- Taps the mask key if asked to. -/
def tapIf (b : Bool) : Draft := if b then (d.add c .maskDown).add c .maskUp else d

/-- Presses `m`, inside a tap of the mask key if asked to. -/
def pressWithin (b : Bool) (m : Modifier) : Draft :=
  if b then ((d.add c .maskDown).add c (.press m)).add c .maskUp else d.add c (.press m)

def releaseIf (p : Prop) [Decidable p] (m : Modifier) : Draft :=
  if p then d.add c (.release m) else d

def winKey (m : Modifier) : Draft :=
  if c.releases m then
    if c.defersWin then d else (d.tapIf c (c.disguise.up && c.bare)).add c (.release m)
  else if c.presses m then d.pressWithin c c.disguise.down m
  else d

def altKey (m : Modifier) : Draft :=
  if c.releases m then
    if c.defersAlt then d else (d.tapIf c (c.ctrlUp && c.disguise.up)).add c (.release m)
  else if c.presses m then d.pressWithin c (c.disguise.down && c.ctrlStaysUp) m
  else d

/-- AltGr is never disguised, and goes down with both Ctrl keys up. -/
def altGrKey : Draft :=
  if c.releases .ralt then d.add c (.release .ralt)
  else if c.presses .ralt then
    let d := d.releaseIf c (.lctrl ∈ d.held) .lctrl
    let d := d.releaseIf c (.rctrl ∈ d.held) .rctrl
    d.add c (.press .ralt)
  else d

def rightAltKey : Draft := if c.altgr then d.altGrKey c else d.altKey c .ralt

/-- Early release of a Shift key. -/
def earlyShift (m : Modifier) : Draft := d.releaseIf c (c.shiftFirst ∧ c.releases m) m

def ctrlKey (m : Modifier) : Draft :=
  if m ∈ d.held ∧ m ∉ c.new then d.add c (.release m)
  else if m ∉ d.held ∧ m ∈ c.new then d.add c (.press m)
  else d

def shiftKey (m : Modifier) : Draft :=
  if m ∈ d.held ∧ m ∉ c.new then d.add c (.release m)
  else if c.presses m then d.add c (.press m)
  else d

def lateWin (m : Modifier) : Draft := d.releaseIf c (c.defersWin ∧ c.releases m) m

def lateAlt (m : Modifier) : Draft :=
  d.releaseIf c (c.defersAlt ∧ c.releases m ∧ ¬(m = .ralt ∧ c.altgr)) m

/-- Every key in its turn. -/
def run : Draft :=
  let d := (d.winKey c .lwin).winKey c .rwin
  let d := (d.earlyShift c .lshift).earlyShift c .rshift
  let d := (d.altKey c .lalt).rightAltKey c
  let d := (d.ctrlKey c .lctrl).ctrlKey c .rctrl
  let d := (d.shiftKey c .lshift).shiftKey c .rshift
  let d := (d.lateWin c .lwin).lateWin c .rwin
  (d.lateAlt c .lalt).lateAlt c .ralt

end Draft

/-- The steps that take `known` to `wanted`, none if there is nothing to change. -/
def make (wanted known : Mask) (altgr : Bool) (disguise : Disguise) : Plan :=
  let new := wanted.settled altgr
  if new = known then ⟨[], known⟩
  else
    let d := (Draft.mk [] known).run ⟨known, new, altgr, disguise⟩
    ⟨d.steps, d.held⟩

end Plan

end KeySynth
