import KeySynth.Config.Basic
import KeySynth.Toml.Value

/-!
Reading configurations, by any reader of TOML documents.

Keys that are missing keep their defaults and unknown keys are passed over.
-/

namespace KeySynth.Config

/-- Reads one key as `f` reads its value. -/
def field {α : Type} (es : Toml.Entries) (key : String) (f : Toml.Value → Option α)
    (default : α) : Except Fault α :=
  match es.lookup key with
  | none => .ok default
  | some v =>
    match f v with
    | some a => .ok a
    | none => .error (.config ("invalid value for " ++ key))

/-- A signed number of 32 bits. -/
def int? : Toml.Value → Option Int
  | .integer n => if -0x80000000 ≤ n ∧ n ≤ 0x7FFFFFFF then some n else none
  | _ => none

/-- An unsigned number of 32 bits. -/
def word? : Toml.Value → Option UInt32
  | .integer n => if 0 ≤ n ∧ n < UInt32.size then some n.toNat.toUInt32 else none
  | _ => none

def flag? : Toml.Value → Option Bool
  | .boolean b => some b
  | _ => none

def text? : Toml.Value → Option String
  | .text s => some s
  | _ => none

def ofEntries (es : Toml.Entries) : Except Fault Config := do
  let d : Config := {}
  pure
    { keyDelay := ← field es "key_delay" int? d.keyDelay
      pressDuration := ← field es "press_duration" int? d.pressDuration
      keyDelayPlay := ← field es "key_delay_play" int? d.keyDelayPlay
      pressDurationPlay := ← field es "press_duration_play" int? d.pressDurationPlay
      mouseDelay := ← field es "mouse_delay" int? d.mouseDelay
      mouseDelayPlay := ← field es "mouse_delay_play" int? d.mouseDelayPlay
      sendMode := ← field es "send_mode" text? d.sendMode
      sendLevel := ← field es "send_level" word? d.sendLevel
      mouseSpeed := ← field es "default_mouse_speed" word? d.mouseSpeed
      storeCapsLock := ← field es "store_caps_lock_mode" flag? d.storeCapsLock
      coordMode := ← field es "coord_mode" text? d.coordMode
      hotkeyTimeout := ← field es "hotkey_modifier_timeout" int? d.hotkeyTimeout
      maskKey := ← field es "menu_mask_key" text? d.maskKey
      maxThreads := ← field es "max_threads" word? d.maxThreads
      maxThreadsPerHotkey := ← field es "max_threads_per_hotkey" word? d.maxThreadsPerHotkey }

variable (read : Toml.Reader)

/-- The configuration that a text describes, with its numbers in their ranges. -/
def ofText (text : String) : Except Fault Config :=
  match read text with
  | .ok es => (ofEntries es).map clamped
  | .error reason => .error (.config reason)

def ofBytes (bytes : ByteArray) : Except Fault Config :=
  match String.fromUTF8? bytes with
  | some text => ofText read text
  | none => .error (.file .notText)

end KeySynth.Config
