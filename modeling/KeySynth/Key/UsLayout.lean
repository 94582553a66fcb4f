import KeySynth.Key.Code

/-!
Which key types a character on the US layout.
-/

namespace KeySynth.UsLayout

/-- The punctuation keys: the character without and the character with Shift. -/
def punctuation : List (VirtualKey × Char × Char) :=
  [(0x30, '0', ')'), (0x31, '1', '!'), (0x32, '2', '@'), (0x33, '3', '#'), (0x34, '4', '$'),
   (0x35, '5', '%'), (0x36, '6', '^'), (0x37, '7', '&'), (0x38, '8', '*'), (0x39, '9', '('),
   (0xBA, ';', ':'), (0xBB, '=', '+'), (0xBC, ',', '<'), (0xBD, '-', '_'), (0xBE, '.', '>'),
   (0xBF, '/', '?'), (0xC0, '\x60', '~'), (0xDB, '[', '{'), (0xDC, '\\', '|'),
   (0xDD, ']', '}'), (0xDE, '\'', '"')]

/-- A key, and whether Shift must be held for it. -/
structure Typed where
  vk : VirtualKey
  shift : Bool
deriving DecidableEq, Repr

/-- The key that types `c`, if the layout has one. -/
def key? (c : Char) : Option Typed :=
  if 'a' ≤ c ∧ c ≤ 'z' then some ⟨(c.toNat - 0x20).toUInt8, false⟩
  else if 'A' ≤ c ∧ c ≤ 'Z' then some ⟨c.toNat.toUInt8, true⟩
  else if c = ' ' then some ⟨.space, false⟩
  else if c = '\t' then some ⟨.tab, false⟩
  else if c = '\n' ∨ c = '\r' then some ⟨.enter, false⟩
  else punctuation.findSome? fun (vk, plain, shifted) =>
    if c = plain then some ⟨vk, false⟩
    else if c = shifted then some ⟨vk, true⟩
    else none

end KeySynth.UsLayout
