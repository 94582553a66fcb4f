/-!
Points of the screen. Coordinates have 32 bits, and sums that would leave that range stop at
its ends.
-/

namespace KeySynth

def coordMin : Int := -0x80000000
def coordMax : Int := 0x7FFFFFFF

/-- The nearest coordinate. -/
def saturate (n : Int) : Int := max coordMin (min n coordMax)

structure Point where
  x : Int
  y : Int
deriving DecidableEq, Repr, Inhabited

namespace Point

def zero : Point := ⟨0, 0⟩

def offset (p : Point) (dx dy : Int) : Point := ⟨saturate (p.x + dx), saturate (p.y + dy)⟩

end Point

end KeySynth
