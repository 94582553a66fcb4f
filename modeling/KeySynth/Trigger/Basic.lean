import KeySynth.Event.Tag

/-!
Hotkeys and hotstrings, and the ways in which each can fire.
-/

namespace KeySynth

/-- Ids are given out in turn and begin again after the last. -/
abbrev TriggerId := UInt32

inductive TriggerKind where
  | hotkey | hotstring
deriving DecidableEq, Repr

/-- What must hold at the moment a variant fires. Conditions are numbered, and whoever fires a
trigger says which of them hold. -/
inductive Criterion where
  | always
  | when (condition : Nat)
deriving DecidableEq, Repr

def Criterion.holds (conditions : Nat → Bool) : Criterion → Bool
  | always => true
  | «when» n => conditions n

/-- One way in which a trigger can fire. -/
structure Variant where
  criterion : Criterion := .always
  priority : Int := 0
  /-- Only input sent above this level counts. -/
  inputLevel : UInt32 := 0
  /-- How many threads may run at once, if not left to the registry. -/
  maxThreads : Option Nat := none
  running : Nat := 0
  /-- Another run was asked for while no more threads were allowed. -/
  runAgain : Bool := false
deriving DecidableEq, Repr

namespace Variant

/-- At least one thread may always run. -/
def withMaxThreads (v : Variant) (n : Nat) : Variant := { v with maxThreads := some (max n 1) }

/-- Input with the tag `info` is above the variant's level. -/
def allows (v : Variant) (info : Tag) : Bool := Text.signed v.inputLevel < info.level

/-- The variant may fire on the input. -/
def eligible (v : Variant) (conditions : Nat → Bool) (info : Tag) : Bool :=
  v.allows info && v.criterion.holds conditions

end Variant

structure Trigger where
  name : String
  kind : TriggerKind
  variants : List Variant
deriving DecidableEq, Repr

/-- What becomes of a trigger that fired. -/
inductive Admission where
  /-- A new thread runs the variant. -/
  | launched (id : TriggerId) (variant : Nat)
  /-- The variant is saturated and will run once more when a thread is finished. -/
  | runAgainAfterFinished
  /-- Held back by the limit on all threads or by a thread of higher priority. -/
  | queued
  /-- No variant may fire on the input. -/
  | ignored
deriving DecidableEq, Repr

end KeySynth
