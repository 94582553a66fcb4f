import KeySynth.Engine.Basic

/-!
How events leave a run.

Every event goes through `emit`: the ledger follows it, the journal keeps it, and it joins the
batch or is injected at once. What an event of its own injection comes to makes no difference.
-/

namespace KeySynth

/-- The form in which an event travels: a replay names modifier keys without their side, which
the scan code keeps. -/
def EventRecord.carried (b : Backend) : EventRecord → EventRecord
  | .key k => .key (if b = .play then { k with vk := k.vk.neutral } else k)
  | e => e

/-- Where an event sends the cursor. -/
def EventRecord.destination? : EventRecord → Option Point
  | .mouse m => if m.flags.has .moveTo then some m.point else none
  | _ => none

def EventRecord.isModifierKey : EventRecord → Bool
  | .key k => k.vk.isModifier
  | _ => false

namespace Run

variable {P : Type} [Platform P] (r : Run P)

/-- Into the batch, or else to the system. -/
def dispatch (e : EventRecord) : Run P :=
  match r.batch with
  | some b => { r with batch := some (b.push e) }
  | none => { r with platform := (Platform.inject r.platform #[e]).2 }

/-- Lets a window of our own see a modifier before the next key. -/
def yieldAfter (e : EventRecord) : Run P :=
  if r.ownWindow && r.batch.isNone && e.isModifierKey then
    { r with platform := Platform.wait r.platform 0 }
  else r

def emit (e : EventRecord) : Run P :=
  let r := { r with
    journal := ⟨e, r.ledger.logical⟩ :: r.journal
    ledger := r.ledger.note r.altgr e
    pointer := e.destination?.or r.pointer }
  (r.dispatch (e.carried r.backend)).yieldAfter e

/-- A key goes down or up; a code that is zero is found from the other. -/
def emitKey (vk : VirtualKey) (sc : ScanCode) (up : Bool) (info : Tag) : Run P :=
  let vk := if vk = 0 then Platform.keyAt r.platform sc r.layout else vk
  let sc := if sc = 0 then Platform.scanOf r.platform vk r.layout else sc
  r.emit (.key ⟨vk, sc, up, sc.isExtended, false, info⟩)

/-- A UTF-16 unit goes down or up. -/
def emitUnit (unit : UInt16) (up : Bool) : Run P :=
  r.emit (.key ⟨.packet, unit, up, false, true, r.tag⟩)

def emitMouse (flags : MouseFlags) (data : Int) (point : Point) : Run P :=
  r.emit (.mouse ⟨flags, data, point, r.tag⟩)

/-- Leaves a mark in the batch. -/
def emitMark (ms : Nat) : Run P :=
  match r.batch with
  | some b => { r with batch := some (b.push (.delay ms)) }
  | none => r

def pause : Pause → Run P
  | .none => r
  | .mark ms => r.emitMark ms
  | .sleep ms => { r with platform := Platform.sleep r.platform ms }
  | .wait ms => { r with platform := Platform.wait r.platform ms }

def keyPause : Run P := r.pause (r.backend.keyPause r.delays.key)
def pressPause : Run P := r.pause (r.backend.keyPause r.delays.press)
def mousePause : Run P := r.pause (r.backend.mousePause r.delays.mouse)

/-- A key goes down, up, or down and up again. -/
def strike (motion : KeyMotion) (vk : VirtualKey) (sc : ScanCode) : Run P :=
  match motion with
  | .down => r.emitKey vk sc false r.tag
  | .up => r.emitKey vk sc true r.tag
  | .downUp => ((r.emitKey vk sc false r.tag).pressPause).emitKey vk sc true r.tag

def maskDown : Run P := r.emitKey r.maskKey.1 r.maskKey.2 false .ignore
def maskUp : Run P := r.emitKey r.maskKey.1 r.maskKey.2 true .ignore

def resync : Run P := { r with toEngine := r.toEngine.resync }

def rollback (h : Holds) : Run P := { r with ledger := r.ledger.restore h }

/-- Sends the batch in one call. If that fails the ledger is put back, and if only part of the
batch got through it is taken from the system. -/
def flush : Run P :=
  match r.batch with
  | none => r
  | some b =>
    let r := { r with batch := none }
    if b.discarded then r.rollback b.snapshot
    else if b.events.isEmpty then r
    else if r.backend = .play then
      match Platform.play r.platform b.events with
      | (.ok _, p) => { r with platform := p }
      | (.error _, p) => { r with platform := p }.rollback b.snapshot
    else
      match Platform.inject r.platform b.events with
      | (.ok n, p) =>
        let r := { r with platform := p }
        if n < b.size then r.resync else r
      | (.error _, p) => { r with platform := p }.rollback b.snapshot

/-- Drops the batch. -/
def discard : Run P :=
  match r.batch with
  | none => r
  | some b => { r with batch := none }.rollback b.snapshot

end Run

end KeySynth
