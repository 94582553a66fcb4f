/-!
Key codes. A virtual key names a key by what it means, a scan code by where it sits on the
board; a scan code with a high byte belongs to an extended key.
-/

namespace KeySynth

abbrev VirtualKey := UInt8

abbrev ScanCode := UInt16

namespace VirtualKey

abbrev backspace : VirtualKey := 0x08
abbrev tab : VirtualKey := 0x09
abbrev enter : VirtualKey := 0x0D
abbrev shift : VirtualKey := 0x10
abbrev control : VirtualKey := 0x11
abbrev alt : VirtualKey := 0x12
abbrev pause : VirtualKey := 0x13
abbrev capsLock : VirtualKey := 0x14
abbrev escape : VirtualKey := 0x1B
abbrev space : VirtualKey := 0x20
abbrev lwin : VirtualKey := 0x5B
abbrev rwin : VirtualKey := 0x5C
abbrev apps : VirtualKey := 0x5D
abbrev numpad0 : VirtualKey := 0x60
abbrev f1 : VirtualKey := 0x70
abbrev numLock : VirtualKey := 0x90
abbrev scrollLock : VirtualKey := 0x91
abbrev lshift : VirtualKey := 0xA0
abbrev rshift : VirtualKey := 0xA1
abbrev lcontrol : VirtualKey := 0xA2
abbrev rcontrol : VirtualKey := 0xA3
abbrev lalt : VirtualKey := 0xA4
abbrev ralt : VirtualKey := 0xA5
/-- Stands for a character that is sent without a key. -/
abbrev packet : VirtualKey := 0xE7

/-- The keys whose state toggles each time they go down. -/
def isLock (vk : VirtualKey) : Bool :=
  vk == capsLock || vk == numLock || vk == scrollLock

/-- Shift, Control or Alt of neither side. -/
def isNeutral (vk : VirtualKey) : Bool :=
  vk == shift || vk == control || vk == alt

/-- A Shift, Control or Alt key with its side forgotten. -/
def neutral (vk : VirtualKey) : VirtualKey :=
  if vk = lshift ∨ vk = rshift then shift
  else if vk = lcontrol ∨ vk = rcontrol then control
  else if vk = lalt ∨ vk = ralt then alt
  else vk

end VirtualKey

/-- Extended keys carry a high byte. -/
def ScanCode.isExtended (sc : ScanCode) : Bool := sc &&& 0xFF00 != 0

end KeySynth
