import KeySynth.Modifier.Basic
import KeySynth.Event.Basic
import KeySynth.Ledger.LayoutCache

/-!
The ledger: what is known of the modifiers.

The ledger follows every key that is sent. Its sets can be copied and put back, which undoes a
batch that never reached the system.
-/

namespace KeySynth

/-- The modifier sets of a ledger. -/
structure Holds where
  /-- What the system holds down. -/
  logical : Mask
  /-- The same without what hotkeys are told to ignore. -/
  nonIgnored : Mask
  /-- Put down by a text and kept across keys and sends. -/
  persistent : Mask
  /-- Put down by a text as a remapping and restored at the end of each send. -/
  remapped : Mask
  /-- Put down inside a blind send. -/
  blindHeld : Mask
deriving DecidableEq, Repr

def Holds.none : Holds := ⟨∅, ∅, ∅, ∅, ∅⟩

structure Ledger extends Holds where
  /-- When the last hotkey was launched, by the clock of the system. -/
  hotkeyStart : Option Nat
  layouts : LayoutCache
deriving DecidableEq, Repr

/-- What a text says of a modifier. -/
inductive Explicit where
  | down | downRemapped | up
deriving DecidableEq, Repr

namespace Ledger

def empty : Ledger := ⟨.none, Option.none, .empty⟩

/-- The modifiers that a key moves: AltGr drags the left Control key along. -/
def moved (vk : VirtualKey) (altgr : Bool) : Mask :=
  if altgr ∧ vk = .ralt then {.ralt} ∪ {.lctrl} else Mask.ofKey vk

/-- A key went down or up. -/
def noteKey (l : Ledger) (vk : VirtualKey) (up : Bool) (info : Tag) (altgr : Bool) : Ledger :=
  let bits := moved vk altgr
  let l := { l with logical := l.logical.assign bits !up }
  if info ≠ Tag.ignore ∧ 0 < info.level then
    { l with nonIgnored := l.nonIgnored.assign bits !up }
  else l

/-- An event was sent. -/
def note (l : Ledger) (altgr : Bool) : EventRecord → Ledger
  | .key k => l.noteKey k.vk k.up k.info altgr
  | .mouse _ | .delay _ => l

/-- Persistent modifiers must be down, and not by the user's own hand. -/
def refreshPersistent (l : Ledger) (physicalAndLogical : Mask) : Ledger :=
  { l with persistent := l.persistent ∩ (l.logical \ physicalAndLogical) }

def noteExplicit (l : Ledger) (bit : Mask) (e : Explicit) (blind : Bool) : Ledger :=
  match e with
  | .down =>
    { l with
      persistent := l.persistent ∪ bit
      blindHeld := if blind then l.blindHeld ∪ bit else l.blindHeld }
  | .downRemapped => { l with remapped := l.remapped ∪ bit }
  | .up =>
    { l with
      persistent := l.persistent \ bit
      remapped := l.remapped \ bit
      blindHeld := l.blindHeld \ bit }

/-- The logical modifiers are `held` after all. -/
def resync (l : Ledger) (held : Mask) : Ledger :=
  { l with logical := held, nonIgnored := l.nonIgnored ∩ held }

def snapshot (l : Ledger) : Holds := l.toHolds

def restore (l : Ledger) (h : Holds) : Ledger := { l with toHolds := h }

def launched (l : Ledger) (now : Nat) : Ledger := { l with hotkeyStart := some now }

/-- Whether a layout has AltGr, by the ledger's cache. -/
def hasAltGr (l : Ledger) (layout : LayoutId) (probe : LayoutId → Bool) : Bool × Ledger :=
  let (b, c) := l.layouts.hasAltGr layout probe
  (b, { l with layouts := c })

end Ledger

end KeySynth
