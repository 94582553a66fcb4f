import KeySynth.Mode
import KeySynth.Text.Number

/-!
What a thread sends by. Sends read the settings and leave them as they are.
-/

namespace KeySynth

structure Settings where
  keyDelay : Int := 10
  pressDuration : Int := -1
  keyDelayPlay : Int := -1
  pressDurationPlay : Int := -1
  mouseDelay : Int := 10
  mouseDelayPlay : Int := -1
  sendMode : SendMode := .event
  sendLevel : UInt32 := 0
  mouseSpeed : UInt32 := 2
  storeCapsLock : Bool := true
  coordMode : CoordMode := .screen
deriving DecidableEq, Repr

/-- The delays of one backend. -/
structure Delays where
  key : Int
  press : Int
  mouse : Int
deriving DecidableEq, Repr

def Settings.delays (s : Settings) : Backend → Delays
  | .play => ⟨s.keyDelayPlay, s.pressDurationPlay, s.mouseDelayPlay⟩
  | .event | .input => ⟨s.keyDelay, s.pressDuration, s.mouseDelay⟩

end KeySynth
