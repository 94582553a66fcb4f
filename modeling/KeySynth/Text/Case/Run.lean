/-!
Evenly spaced runs of code points, which tables of characters are made of.
-/

namespace KeySynth.Text

/-- The code points from `first` to `last`, each `step` after the one before. -/
structure CharRun where
  first : Nat
  last : Nat
  step : Nat

def CharRun.has (r : CharRun) (cp : Nat) : Bool :=
  r.first ≤ cp && cp ≤ r.last && (cp - r.first) % r.step == 0

/-- A run of code points that all map to another at the same distance. -/
structure CaseRun where
  distance : Int
  run : CharRun

def CaseRun.has (r : CaseRun) (cp : Nat) : Bool := r.run.has cp

def CaseRun.map (r : CaseRun) (cp : Nat) : Nat := (cp + r.distance).toNat

end KeySynth.Text
