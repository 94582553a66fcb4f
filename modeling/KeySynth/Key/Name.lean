import KeySynth.Key.Scan
import KeySynth.Mouse.Button
import KeySynth.Text.Number

/-!
Names of keys.

A name is read without regard to case: the name of a button, a function key, a numpad digit, a
pair of codes, or an entry of `keyNames`. Names that start like a pair of codes are nothing else.
-/

namespace KeySynth

/-- What a name stands for. Of the codes of a key either may be zero and is found later. -/
inductive NamedKey where
  | key (vk : VirtualKey) (sc : ScanCode)
  | mouse (button : Button)
deriving DecidableEq, Repr

/-- A key together with its scan code on the board. -/
def VirtualKey.named (vk : VirtualKey) : NamedKey := .key vk vk.scan

/-- The keys with a name of their own, in capitals. -/
def keyNames : List (String × NamedKey) :=
  [("ENTER", VirtualKey.enter.named), ("RETURN", VirtualKey.enter.named),
   ("ESC", VirtualKey.escape.named), ("ESCAPE", VirtualKey.escape.named),
   ("SPACE", VirtualKey.space.named), ("TAB", VirtualKey.tab.named),
   ("BACKSPACE", VirtualKey.backspace.named), ("BS", VirtualKey.backspace.named),
   ("BACK", VirtualKey.backspace.named),
   ("DELETE", VirtualKey.named 0x2E), ("DEL", VirtualKey.named 0x2E),
   ("INSERT", VirtualKey.named 0x2D), ("INS", VirtualKey.named 0x2D),
   ("HOME", VirtualKey.named 0x24), ("END", VirtualKey.named 0x23),
   ("PGUP", VirtualKey.named 0x21), ("PAGEUP", VirtualKey.named 0x21),
   ("PGDN", VirtualKey.named 0x22), ("PAGEDOWN", VirtualKey.named 0x22),
   ("UP", VirtualKey.named 0x26), ("DOWN", VirtualKey.named 0x28),
   ("LEFT", VirtualKey.named 0x25), ("RIGHT", VirtualKey.named 0x27),
   ("CAPSLOCK", VirtualKey.capsLock.named), ("SCROLLLOCK", VirtualKey.scrollLock.named),
   ("NUMLOCK", VirtualKey.numLock.named), ("PAUSE", VirtualKey.pause.named),
   ("PRINTSCREEN", VirtualKey.named 0x2C), ("APPSKEY", VirtualKey.apps.named),
   ("SLEEP", VirtualKey.named 0x5F),
   ("CONTROL", VirtualKey.control.named), ("CTRL", VirtualKey.control.named),
   ("LCONTROL", VirtualKey.lcontrol.named), ("LCTRL", VirtualKey.lcontrol.named),
   ("RCONTROL", VirtualKey.rcontrol.named), ("RCTRL", VirtualKey.rcontrol.named),
   ("SHIFT", VirtualKey.shift.named), ("LSHIFT", VirtualKey.lshift.named),
   ("RSHIFT", VirtualKey.rshift.named),
   ("ALT", VirtualKey.alt.named), ("LALT", VirtualKey.lalt.named),
   ("RALT", VirtualKey.ralt.named),
   ("LWIN", VirtualKey.lwin.named), ("RWIN", VirtualKey.rwin.named),
   ("NUMPADDOT", VirtualKey.named 0x6E), ("NUMPADDEL", VirtualKey.named 0x6E),
   ("NUMPADMULT", VirtualKey.named 0x6A), ("NUMPADADD", VirtualKey.named 0x6B),
   ("NUMPADSUB", VirtualKey.named 0x6D), ("NUMPADDIV", VirtualKey.named 0x6F),
   -- the same key as Enter, elsewhere on the board
   ("NUMPADENTER", .key .enter 0x11C),
   ("BROWSER_BACK", VirtualKey.named 0xA6), ("BROWSER_FORWARD", VirtualKey.named 0xA7),
   ("BROWSER_REFRESH", VirtualKey.named 0xA8), ("BROWSER_HOME", VirtualKey.named 0xAC),
   ("VOLUME_MUTE", VirtualKey.named 0xAD), ("VOLUME_DOWN", VirtualKey.named 0xAE),
   ("VOLUME_UP", VirtualKey.named 0xAF), ("MEDIA_NEXT", VirtualKey.named 0xB0),
   ("MEDIA_PREV", VirtualKey.named 0xB1), ("MEDIA_STOP", VirtualKey.named 0xB2),
   ("MEDIA_PLAY_PAUSE", VirtualKey.named 0xB3)]

namespace NamedKey

open Text

/-- `F1` to `F24`. -/
def functionKey? : List Char → Option NamedKey
  | 'F' :: ds =>
    ((natural? 10 256 ds).filter fun n => 1 ≤ n ∧ n ≤ 24).map fun n =>
      (VirtualKey.f1 + (n - 1).toUInt8).named
  | _ => none

/-- `NUMPAD0` to `NUMPAD9`. -/
def numpadDigit? : List Char → Option NamedKey
  | 'N' :: 'U' :: 'M' :: 'P' :: 'A' :: 'D' :: ds =>
    ((natural? 10 256 ds).filter (· ≤ 9)).map fun n => (VirtualKey.numpad0 + n.toUInt8).named
  | _ => none

/-- The text before and after the first `SC`. -/
def splitScan : List Char → Option (List Char × List Char)
  | 'S' :: 'C' :: cs => some ([], cs)
  | c :: cs => (splitScan cs).map fun (u, v) => (c :: u, v)
  | [] => none

def virtualCode? (cs : List Char) : Option VirtualKey := (natural? 16 256 cs).map Nat.toUInt8

def scanCode? (cs : List Char) : Option ScanCode := (natural? 16 65536 cs).map Nat.toUInt16

/-- A pair of codes names a key unless both are zero. -/
def ofCodes? (vk : VirtualKey) (sc : ScanCode) : Option NamedKey :=
  if vk = 0 ∧ sc = 0 then none else some (.key vk sc)

/-- `VK` and `SC` codes in hexadecimal, both or either. The outer level tells whether the name
starts like one. -/
def codes? : List Char → Option (Option NamedKey)
  | 'S' :: 'C' :: sc => some do ofCodes? 0 (← scanCode? sc)
  | 'V' :: 'K' :: cs => some <|
    match splitScan cs with
    | some (vk, sc) => do ofCodes? (← virtualCode? vk) (← scanCode? sc)
    | none => do ofCodes? (← virtualCode? cs) 0
  | _ => none

/-- The key of a name written in capitals. -/
def ofCapitals? (upper : List Char) : Option NamedKey :=
  match Button.ofCapitals? (String.ofList upper) with
  | some b => some (.mouse b)
  | none =>
    match functionKey? upper <|> numpadDigit? upper with
    | some k => some k
    | none => (codes? upper).getD (keyNames.lookup (String.ofList upper))

/-- The key of a name in letters of either case. -/
def ofName? (name : List Char) : Option NamedKey := ofCapitals? (name.map Char.toUpper)

end NamedKey

end KeySynth
