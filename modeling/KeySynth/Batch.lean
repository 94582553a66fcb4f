import KeySynth.Event.Basic
import KeySynth.Ledger.Basic
import KeySynth.Mode

/-!
Batches of events that reach the system in one call or not at all.

A batch that outgrows its ceiling is dropped whole and stays empty.
-/

namespace KeySynth

/-- The most events a batch may hold. -/
def SendMode.ceiling : SendMode → Nat
  | .play => 32768
  | .event | .input | .inputThenPlay => 65536

def Backend.ceiling : Backend → Nat
  | .play => SendMode.play.ceiling
  | .event => SendMode.event.ceiling
  | .input => SendMode.input.ceiling

structure Batch where
  ceiling : Nat
  events : Array EventRecord
  /-- The ledger before the batch. -/
  snapshot : Holds
  discarded : Bool

namespace Batch

def new (ceiling : Nat) (snapshot : Holds) : Batch := ⟨ceiling, #[], snapshot, false⟩

def size (b : Batch) : Nat := b.events.size

def discard (b : Batch) : Batch := { b with events := #[], discarded := true }

def push (b : Batch) (e : EventRecord) : Batch :=
  if b.discarded then b
  else if b.ceiling ≤ b.size then b.discard
  else { b with events := b.events.push e }

end Batch

end KeySynth
