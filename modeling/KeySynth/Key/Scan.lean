import KeySynth.Key.Code

/-!
The scan codes of the US board.

The table is read both ways. Read backwards it never answers with a neutral Shift, Control or
Alt, so a scan code tells the sides apart.
-/

namespace KeySynth

/-- Every key of the board with its scan code. -/
def scanTable : List (VirtualKey × ScanCode) :=
  -- letters
  [(0x41, 0x1E), (0x42, 0x30), (0x43, 0x2E), (0x44, 0x20), (0x45, 0x12), (0x46, 0x21),
   (0x47, 0x22), (0x48, 0x23), (0x49, 0x17), (0x4A, 0x24), (0x4B, 0x25), (0x4C, 0x26),
   (0x4D, 0x32), (0x4E, 0x31), (0x4F, 0x18), (0x50, 0x19), (0x51, 0x10), (0x52, 0x13),
   (0x53, 0x1F), (0x54, 0x14), (0x55, 0x16), (0x56, 0x2F), (0x57, 0x11), (0x58, 0x2D),
   (0x59, 0x15), (0x5A, 0x2C),
   -- digits
   (0x30, 0x0B), (0x31, 0x02), (0x32, 0x03), (0x33, 0x04), (0x34, 0x05), (0x35, 0x06),
   (0x36, 0x07), (0x37, 0x08), (0x38, 0x09), (0x39, 0x0A),
   -- function keys
   (0x70, 0x3B), (0x71, 0x3C), (0x72, 0x3D), (0x73, 0x3E), (0x74, 0x3F), (0x75, 0x40),
   (0x76, 0x41), (0x77, 0x42), (0x78, 0x43), (0x79, 0x44), (0x7A, 0x57), (0x7B, 0x58),
   -- editing and navigation
   (0x1B, 0x01), (0x0D, 0x1C), (0x09, 0x0F), (0x20, 0x39), (0x08, 0x0E), (0x2E, 0x153),
   (0x2D, 0x152), (0x24, 0x147), (0x23, 0x14F), (0x21, 0x149), (0x22, 0x151), (0x26, 0x148),
   (0x28, 0x150), (0x25, 0x14B), (0x27, 0x14D), (0x5D, 0x15D),
   -- locks and system
   (0x14, 0x3A), (0x90, 0x145), (0x91, 0x46), (0x13, 0x45), (0x2C, 0x137),
   -- numpad
   (0x60, 0x52), (0x61, 0x4F), (0x62, 0x50), (0x63, 0x51), (0x64, 0x4B), (0x65, 0x4C),
   (0x66, 0x4D), (0x67, 0x47), (0x68, 0x48), (0x69, 0x49), (0x6A, 0x37), (0x6B, 0x4E),
   (0x6D, 0x4A), (0x6E, 0x53), (0x6F, 0x135),
   -- punctuation
   (0xBA, 0x27), (0xBB, 0x0D), (0xBC, 0x33), (0xBD, 0x0C), (0xBE, 0x34), (0xBF, 0x35),
   (0xC0, 0x29), (0xDB, 0x1A), (0xDC, 0x2B), (0xDD, 0x1B), (0xDE, 0x28), (0xE2, 0x56),
   -- modifiers
   (.lshift, 0x2A), (.rshift, 0x36), (.lcontrol, 0x1D), (.rcontrol, 0x11D), (.lalt, 0x38),
   (.ralt, 0x138), (.lwin, 0x15B), (.rwin, 0x15C),
   (.shift, 0x2A), (.control, 0x1D), (.alt, 0x38)]

/-- The scan code of a key, `0` for a key the board lacks. -/
def VirtualKey.scan (vk : VirtualKey) : ScanCode :=
  (scanTable.lookup vk).getD 0

/-- The key at a scan code, `0` where the board has none. -/
def ScanCode.key (sc : ScanCode) : VirtualKey :=
  match scanTable.find? fun (vk, s) => s == sc && !vk.isNeutral with
  | some (vk, _) => vk
  | none => 0

end KeySynth
