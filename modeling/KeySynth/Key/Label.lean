import KeySynth.Key.Code
import KeySynth.Text.Number

/-!
The names that keys are shown by.
-/

namespace KeySynth.VirtualKey

/-- The keys shown by a word. -/
def labels : List (VirtualKey × String) :=
  [(.space, "Space"), (.enter, "Enter"), (.tab, "Tab"), (.escape, "Escape"),
   (.backspace, "Backspace"), (.capsLock, "CapsLock"), (.numLock, "NumLock"),
   (.lshift, "LShift"), (.rshift, "RShift"), (.lcontrol, "LControl"), (.rcontrol, "RControl"),
   (.lalt, "LAlt"), (.ralt, "RAlt"), (.lwin, "LWin"), (.rwin, "RWin"),
   (.shift, "Shift"), (.control, "Control"), (.alt, "Alt"), (.packet, "Packet")]

/-- A letter or digit, a numpad digit, a function key, a word, or else the code. -/
def label (vk : VirtualKey) : String :=
  if 0x41 ≤ vk ∧ vk ≤ 0x5A ∨ 0x30 ≤ vk ∧ vk ≤ 0x39 then String.singleton (Char.ofUInt8 vk)
  else if 0x60 ≤ vk ∧ vk ≤ 0x69 then "Numpad" ++ toString (vk - 0x60).toNat
  else if 0x70 ≤ vk ∧ vk ≤ 0x87 then "F" ++ toString ((vk - 0x70).toNat + 1)
  else (labels.lookup vk).getD ("vk" ++ Text.hex true 2 vk.toNat)

end KeySynth.VirtualKey
