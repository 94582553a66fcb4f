import KeySynth.Engine.Basic
import KeySynth.Trigger.Registry

/-!
Configurations: the settings as they are written down, not all of them checked.
-/

namespace KeySynth

structure Config where
  keyDelay : Int := 10
  pressDuration : Int := -1
  keyDelayPlay : Int := -1
  pressDurationPlay : Int := -1
  mouseDelay : Int := 10
  mouseDelayPlay : Int := -1
  sendMode : String := "Event"
  sendLevel : UInt32 := 0
  mouseSpeed : UInt32 := 2
  storeCapsLock : Bool := true
  coordMode : String := "Screen"
  hotkeyTimeout : Int := 50
  maskKey : String := "LCtrl"
  maxThreads : UInt32 := 10
  maxThreadsPerHotkey : UInt32 := 1
deriving DecidableEq, Repr

namespace Config

/-- The highest mouse speed that settings take over. -/
def maxSpeed : UInt32 := 100

/-- Numbers brought into their ranges. -/
def clamped (c : Config) : Config :=
  { c with
    sendLevel := min c.sendLevel Tag.maxLevel.toUInt32
    mouseSpeed := min c.mouseSpeed maxSpeed
    maxThreads := max 1 (min c.maxThreads 255)
    maxThreadsPerHotkey := max 1 (min c.maxThreadsPerHotkey 255)
    keyDelay := max c.keyDelay (-1)
    pressDuration := max c.pressDuration (-1)
    keyDelayPlay := max c.keyDelayPlay (-1)
    pressDurationPlay := max c.pressDurationPlay (-1)
    mouseDelay := max c.mouseDelay (-1)
    mouseDelayPlay := max c.mouseDelayPlay (-1) }

/-- The settings of a thread, if the level and the modes are any. -/
def settings (c : Config) : Except Fault Settings := do
  if Tag.maxLevel < c.sendLevel.toNat then
    throw (.invalidValue .sendLevel (toString c.sendLevel))
  let sendMode ← SendMode.ofName? c.sendMode
  let coordMode ← CoordMode.ofName? c.coordMode
  pure
    { keyDelay := c.keyDelay
      pressDuration := c.pressDuration
      keyDelayPlay := c.keyDelayPlay
      pressDurationPlay := c.pressDurationPlay
      mouseDelay := c.mouseDelay
      mouseDelayPlay := c.mouseDelayPlay
      sendMode
      sendLevel := c.sendLevel
      mouseSpeed := min c.mouseSpeed maxSpeed
      storeCapsLock := c.storeCapsLock
      coordMode }

end Config

/-- An engine on a system, as configured. -/
def Engine.ofConfig {P : Type} [Platform P] (platform : P) (c : Config) :
    Except Fault (Engine P) := do
  let e ← (Engine.new platform (← c.settings)).setMaskKey c.maskKey
  pure { e with hotkeyTimeout := c.hotkeyTimeout }

def Registry.ofConfig (c : Config) : Registry :=
  .new c.maxThreads.toNat c.maxThreadsPerHotkey.toNat

end KeySynth
