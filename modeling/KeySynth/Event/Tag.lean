import KeySynth.Text.Number

/-!
Tags of synthesized events.

Every event carries a word that says who sent it. The words from `lowest` to `ignore` are ours:
all but the top two encode a send level, and hotkeys compare it with their own.
-/

namespace KeySynth

abbrev Tag := UInt32

namespace Tag

/-- Ignored by every hook. -/
def ignore : Tag := 0xFFC3D44F

/-- Ignored by all but modifier tracking, at level `0`. -/
def levelZero : Tag := ignore - 2

def maxLevel : Nat := 100

/-- The tag of events sent at a level. -/
def ofLevel (level : UInt32) : Tag := levelZero - level

/-- The lowest of our tags. -/
def lowest : Tag := ofLevel maxLevel.toUInt32

/-- The level in a tag. The two top tags lie below every level, and what others send above. -/
def level (t : Tag) : Int :=
  if lowest ≤ t ∧ t ≤ ignore then (levelZero.toNat : Int) - t.toNat else maxLevel + 1

end Tag

end KeySynth
