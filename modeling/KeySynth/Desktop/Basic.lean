import KeySynth.Platform
import KeySynth.Key.Set
import KeySynth.Key.UsLayout

/-!
A headless desktop that records what is sent to it.

Keys, locks, cursor and clock follow the events as those of a real desktop would, so that one
send sees what the one before it has done.
-/

namespace KeySynth

/-- One injected or replayed batch. -/
structure Flush where
  backend : Backend
  size : Nat
deriving DecidableEq, Repr

/-- What has been recorded. -/
structure Recording where
  /-- Everything but delays. -/
  events : Array EventRecord
  flushes : Array Flush
  sleeps : Array Nat
  waits : Array Nat

def Recording.empty : Recording := ⟨#[], #[], #[], #[]⟩

structure Desktop where
  hook : Bool
  /-- What the user holds down. -/
  physical : Mask
  altgr : Bool
  buttonsSwapped : Bool
  foreignHooks : Bool
  /-- Nothing that is sent gets through. -/
  failing : Bool
  /-- The corner of the window. -/
  origin : Point
  ownWindow : Option WindowId
  down : KeySet
  toggled : KeySet
  cursor : Point
  /-- In nanoseconds. -/
  clock : Nat
  log : Recording

namespace Desktop

def usLayout : LayoutId := 0x04090409
def altgrLayout : LayoutId := 0x04070407

def new : Desktop :=
  { hook := false, physical := ∅, altgr := false, buttonsSwapped := false,
    foreignHooks := false, failing := false, origin := .zero, ownWindow := none,
    down := ∅, toggled := ∅, cursor := .zero, clock := 0, log := .empty }

variable (d : Desktop)

/-- Forgets what was recorded. -/
def clear : Desktop := { d with log := .empty }

/-- The key that an event moves. The scan code gives a neutral modifier its side. -/
def keyOf (k : KeyRecord) : VirtualKey :=
  if k.vk.isNeutral && k.sc != 0 then k.sc.key else k.vk

def applyKey (k : KeyRecord) : Desktop :=
  if k.unicode then d
  else
    let vk := keyOf k
    let toggles := !k.up && vk.isLock && !decide (vk ∈ d.down)
    let toggled := if toggles then d.toggled.assign vk !decide (vk ∈ d.toggled) else d.toggled
    let down := d.down.assign vk !k.up
    let down := if d.altgr && vk == .ralt then down.assign .lcontrol !k.up else down
    { d with toggled, down }

def applyMouse (m : MouseRecord) : Desktop :=
  if m.flags.has .moveTo then { d with cursor := m.point }
  else if m.flags.has .move then { d with cursor := d.cursor.offset m.point.x m.point.y }
  else d

/-- What an event does to the desktop. -/
def apply : EventRecord → Desktop
  | .key k => d.applyKey k
  | .mouse m => d.applyMouse m
  | .delay ms => { d with clock := d.clock + millisecond * ms }

/-- Takes a batch of events and records it. -/
def take (backend : Backend) (es : Array EventRecord) : Desktop :=
  let d := es.foldl apply d
  { d with
    log := { d.log with
      events := d.log.events ++ es.filter (!·.isDelay)
      flushes := d.log.flushes.push ⟨backend, es.size⟩ } }

def inject (es : Array EventRecord) : Except Fault Nat × Desktop :=
  if d.failing then (.error (.platform "injection blocked"), d)
  else (.ok es.size, d.take .input es)

def play (es : Array EventRecord) : Except Fault Unit × Desktop :=
  if d.failing then (.error (.platform "playback blocked"), d)
  else (.ok (), d.take .play es)

def sleep (ms : Nat) : Desktop :=
  { d with
    clock := d.clock + millisecond * ms
    log := { d.log with sleeps := d.log.sleeps.push ms } }

def wait (ms : Nat) : Desktop :=
  { d with
    clock := d.clock + millisecond * ms
    log := { d.log with waits := d.log.waits.push ms } }

def isDown (vk : VirtualKey) : Bool := decide (vk ∈ d.down) || d.physical.meets (Mask.ofKey vk)

/-- The US layout, with the euro sign on AltGr+E where there is an AltGr. -/
def chord? (c : Char) (layout : LayoutId) : Option Chord :=
  if layout = altgrLayout ∧ c = '€' then some ⟨0x45, {.lctrl} ∪ {.lalt}⟩
  else (UsLayout.key? c).map fun t => ⟨t.vk, if t.shift then {.lshift} else ∅⟩

instance : Platform Desktop where
  isDown := isDown
  isToggled d vk := vk ∈ d.toggled
  hasHook := hook
  physical := physical
  foreignHooks := foreignHooks
  scanOf _ vk _ := vk.scan
  keyAt _ sc _ := sc.key
  focusedLayout d _ := if d.altgr then altgrLayout else usLayout
  hasAltGr _ layout := layout == altgrLayout
  chord? _ := chord?
  buttonsSwapped := buttonsSwapped
  cursor := cursor
  origin d mode _ := if mode = .screen then .zero else d.origin
  isOwnWindow d w := d.ownWindow == some w
  now := clock
  inject := inject
  play := play
  sleep := sleep
  wait := wait

end Desktop

end KeySynth
