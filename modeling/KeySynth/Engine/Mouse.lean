import KeySynth.Engine.Reconcile
import KeySynth.Pointer.Path

/-!
Clicks, drags, turns of the wheel and moves.
-/

namespace KeySynth

def maxMouseSpeed : Int := 100

/-- One notch of the wheel. -/
def wheelNotch : Int := 120

/-- How a button that is not a wheel goes down and up. -/
structure ButtonEvents where
  down : MouseFlags
  up : MouseFlags
  data : Int

namespace Button

def events : Button → ButtonEvents
  | right => ⟨.rightDown, .rightUp, 0⟩
  | middle => ⟨.middleDown, .middleUp, 0⟩
  | x1 => ⟨.xDown, .xUp, 1⟩
  | x2 => ⟨.xDown, .xUp, 2⟩
  | _ => ⟨.leftDown, .leftUp, 0⟩

def swapped : Button → Button
  | left => right
  | right => left
  | b => b

/-- The wheel that turns. -/
def wheel : Button → MouseFlags
  | wheelUp | wheelDown => .wheel
  | _ => .hwheel

/-- The way a wheel turns. -/
def wheelSign : Button → Int
  | wheelUp | wheelRight => 1
  | _ => -1

/-- How far a wheel turns, as far as that can be told in 32 bits. -/
def wheelTurn? (b : Button) (count : Nat) : Option Int :=
  let d := (count : Int) * (b.wheelSign * wheelNotch)
  if (count : Int) ≤ coordMax ∧ coordMin ≤ d ∧ d ≤ coordMax then some d else none

end Button

namespace Run

variable {P : Type} [Platform P] (r : Run P)

/-- Where the cursor is, or will be once the batch has been sent. -/
def cursor : Point := r.pointer.getD (Platform.cursor r.platform)

/-- The button that the system takes for `b`. -/
def physicalButton (b : Button) : Button :=
  if Platform.buttonsSwapped r.platform then b.swapped else b

def moveTo (p : Point) : Run P := (r.emitMouse .moveTo 0 p).mousePause

/-- The point that coordinates name. -/
def resolvePoint (x y : Int) (relative : Bool) : Point :=
  if relative then r.cursor.offset x y
  else (Platform.origin r.platform r.settings.coordMode r.target).offset x y

def moveSpeed (speed : Option Int) : Int :=
  max 0 (min (speed.getD (Text.signed r.settings.mouseSpeed)) maxMouseSpeed)

/-- Moves the cursor at once, or along a path. -/
def moveMouse (x y : Int) (speed : Option Int) (relative : Bool) : Run P :=
  let speed := r.moveSpeed speed
  let goal := r.resolvePoint x y relative
  if speed = 0 ∨ r.backend = .input then r.moveTo goal
  else (Path.points r.cursor goal speed).foldl moveTo r

def press (b : Button) (point : Point) : Run P :=
  (r.emitMouse b.events.down b.events.data point).mousePause

def release (b : Button) (point : Point) : Run P :=
  (r.emitMouse b.events.up b.events.data point).mousePause

def turnWheel (b : Button) (count : Nat) : Run P :=
  match b.wheelTurn? count with
  | some d => (r.emitMouse b.wheel d r.cursor).mousePause
  | none => r.fail (.invalidValue .count (toString count))

def clickButton (b : Button) (count : Nat) (action : ClickAction) : Run P :=
  let point := r.cursor
  match action with
  | .down => r.press b point
  | .up => r.release b point
  | .downUp => Nat.repeat (fun r => (r.press b point).release b point) count r

def click (spec : ClickSpec) : Run P :=
  let r :=
    match spec.x, spec.y with
    | some x, some y => r.moveMouse x y spec.speed spec.relative
    | _, _ => r
  if spec.count = 0 then r
  else if spec.button.isWheel then r.turnWheel spec.button spec.count
  else r.clickButton (r.physicalButton spec.button) spec.count spec.action

/-- Presses a button, moves and lets go. -/
def drag (b : Button) (start : Option Point) (goal : Point) (speed : Option Int)
    (relative : Bool) : Run P :=
  let b := r.physicalButton b
  let r :=
    match start with
    | some p => r.moveMouse p.x p.y speed relative
    | none => r
  let r := r.press b r.cursor
  let r := r.moveMouse goal.x goal.y speed relative
  r.release b r.cursor

end Run

namespace Engine

variable {P : Type} [Platform P] (e : Engine P)

/-- A run outside of any text. -/
def startMouse : Run P := e.start e.settings.sendMode .notRaw none

def moveRun (x y : Int) (speed : Option Int) (relative : Bool) : Run P :=
  (e.startMouse.moveMouse x y speed relative).flush

def clickRun (spec : ClickSpec) : Run P := (e.startMouse.click spec).flush

def dragRun (b : Button) (start : Option Point) (goal : Point) (speed : Option Int)
    (relative : Bool) : Run P :=
  (e.startMouse.drag b start goal speed relative).flush

/-- Moves the cursor. -/
def move (x y : Int) (speed : Option Int) (relative : Bool) : Except Fault Unit × Engine P :=
  (e.moveRun x y speed relative).outcome

/-- Clicks, or turns the wheel. -/
def click (spec : ClickSpec) : Except Fault Unit × Engine P := (e.clickRun spec).outcome

/-- Drags from a point, or from where the cursor is. -/
def drag (b : Button) (start : Option Point) (goal : Point) (speed : Option Int)
    (relative : Bool) : Except Fault Unit × Engine P :=
  if b.isWheel then (.error (.invalidValue .button b.name), e)
  else (e.dragRun b start goal speed relative).outcome

end Engine

end KeySynth
