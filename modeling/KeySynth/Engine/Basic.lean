import KeySynth.Batch
import KeySynth.Modifier.Plan
import KeySynth.Pause
import KeySynth.Platform
import KeySynth.Script.Token
import KeySynth.Settings

/-!
The engine and the run of one send.

An engine lives as long as its thread. A run is an engine with the state of the send that it is
working on, which is dropped when the send is over. A run that has met a fault skips the tokens
that are left.
-/

namespace KeySynth

structure Engine (P : Type) where
  platform : P
  ledger : Ledger
  settings : Settings
  /-- The key that is tapped to disguise changes of Win and Alt. -/
  maskKey : VirtualKey × ScanCode
  /-- For so many milliseconds a hotkey's modifiers are taken to be held; forever if negative. -/
  hotkeyTimeout : Int

/-- An event on its way out, with the modifiers that were down before it. Its key has a side,
whatever becomes of it on the way. -/
structure Emission where
  event : EventRecord
  held : Mask
deriving DecidableEq, Repr

structure Session where
  backend : Backend
  raw : RawMode
  blind : Bool
  delays : Delays
  tag : Tag
  layout : LayoutId
  altgr : Bool
  target : Option WindowId
  ownWindow : Bool
  /-- What the user was holding, as far as could be told, when the send began. -/
  estimate : Mask
  /-- What a blind send found down and keeps down. -/
  blindBase : Mask
  /-- What the next key alone is to be pressed with. -/
  keyMods : Mask
  batch : Option Batch
  /-- Where the last move went. -/
  pointer : Option Point
  fault : Option Fault
  /-- Everything sent so far, the latest first. -/
  journal : List Emission

structure Run (P : Type) extends Engine P, Session

/-- The options of one send; without a mode of its own it goes by the thread's. -/
structure SendOptions where
  raw : RawMode := .notRaw
  mode : Option SendMode := none
  target : Option WindowId := none
deriving DecidableEq, Repr

/-- A text that is read, sent as the thread sends. -/
def SendOptions.plain : SendOptions := {}

namespace Engine

variable {P : Type} [Platform P]

def defaultTimeout : Int := 50

/-- An engine that disguises with the left Control key. -/
def new (platform : P) (settings : Settings) : Engine P :=
  ⟨platform, .empty, settings, (.lcontrol, VirtualKey.lcontrol.scan), defaultTimeout⟩

/-- The level that all events are tagged with from now on. -/
def setSendLevel (e : Engine P) (level : UInt32) : Except Fault (Engine P) :=
  if Tag.maxLevel < level.toNat then .error (.invalidValue .sendLevel (toString level))
  else .ok { e with settings := { e.settings with sendLevel := level } }

/-- The mask key is any key with a virtual code. -/
def setMaskKey (e : Engine P) (name : String) : Except Fault (Engine P) :=
  match NamedKey.ofName? name.toList with
  | some (.key vk sc) =>
    if vk = 0 then .error (.invalidValue .menuMaskKey name)
    else .ok { e with maskKey := (vk, if sc = 0 then vk.scan else sc) }
  | _ => .error (.invalidValue .menuMaskKey name)

/-- A hotkey has just been launched. -/
def noteHotkeyStart (e : Engine P) : Engine P :=
  { e with ledger := e.ledger.launched (Platform.now e.platform) }

/-- The modifiers that are down in the system. -/
def heldDown (p : P) : Mask :=
  Modifier.all.foldl (fun s m => if Platform.isDown p m.key then s ∪ {m} else s) ∅

/-- Takes the logical modifiers from the system. -/
def resync (e : Engine P) : Engine P :=
  { e with ledger := e.ledger.resync (heldDown e.platform) }

/-- Begins a run. -/
def start (e : Engine P) (mode : SendMode) (literal : RawMode) (target : Option WindowId) : Run P :=
  let backend := mode.resolve (Platform.foreignHooks e.platform)
  let layout := Platform.focusedLayout e.platform target
  let (altgr, ledger) := e.ledger.hasAltGr layout (Platform.hasAltGr e.platform)
  { e with
    ledger, backend, layout, altgr, target
    raw := literal
    blind := false
    delays := e.settings.delays backend
    tag := .ofLevel e.settings.sendLevel
    ownWindow := target.any (Platform.isOwnWindow e.platform)
    estimate := ∅
    blindBase := ∅
    keyMods := ∅
    batch := if backend.isBatch then some (.new backend.ceiling ledger.snapshot) else none
    pointer := none
    fault := none
    journal := [] }

end Engine

namespace Run

variable {P : Type}

/-- The engine, and how the send went. -/
def outcome (r : Run P) : Except Fault Unit × Engine P :=
  (match r.fault with
   | some f => .error f
   | none => .ok (),
   r.toEngine)

def fail (r : Run P) (f : Fault) : Run P := { r with fault := some f }

/-- The modifiers that must be down for the next key. -/
def wanted (r : Run P) : Mask := r.keyMods ∪ r.ledger.persistent ∪ r.blindBase

/-- The modifiers that must be down between keys. -/
def kept (r : Run P) : Mask := r.ledger.persistent ∪ r.blindBase

end Run

end KeySynth
