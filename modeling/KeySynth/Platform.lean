import KeySynth.Event.Basic
import KeySynth.Ledger.LayoutCache
import KeySynth.Modifier.Basic
import KeySynth.Mode

/-!
The system that input is read from and sent to.
-/

namespace KeySynth

abbrev WindowId := Int

/-- A key and the modifiers that must be held for it. -/
structure Chord where
  vk : VirtualKey
  mods : Mask
deriving DecidableEq, Repr

/-- A millisecond on the clock, which counts nanoseconds. -/
def millisecond : Nat := 1000000

/-- What the engine asks of a system. Delays are in milliseconds. -/
class Platform (P : Type) where
  /-- The key is down, by hand or by injection. -/
  isDown : P → VirtualKey → Bool
  isToggled : P → VirtualKey → Bool
  hasHook : P → Bool
  /-- The modifiers that the hook has seen go down by hand. -/
  physical : P → Mask
  /-- Another process has a hook that could break into a batch. -/
  foreignHooks : P → Bool
  scanOf : P → VirtualKey → LayoutId → ScanCode
  keyAt : P → ScanCode → LayoutId → VirtualKey
  focusedLayout : P → Option WindowId → LayoutId
  hasAltGr : P → LayoutId → Bool
  /-- How the layout types a character, if it does. -/
  chord? : P → Char → LayoutId → Option Chord
  buttonsSwapped : P → Bool
  cursor : P → Point
  /-- The point that coordinates are counted from. -/
  origin : P → CoordMode → Option WindowId → Point
  isOwnWindow : P → WindowId → Bool
  /-- The clock, in nanoseconds. -/
  now : P → Nat
  /-- Sends events in one go; answers how many were taken. -/
  inject : P → Array EventRecord → Except Fault Nat × P
  /-- Replays events in order, with their delays. -/
  play : P → Array EventRecord → Except Fault Unit × P
  sleep : P → Nat → P
  wait : P → Nat → P

end KeySynth
