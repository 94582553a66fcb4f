/-!
UTF-16 units of a code point.
-/

namespace KeySynth.Text

/-- A code point that is a character, so not a surrogate. -/
def isScalar (cp : Nat) : Bool := cp < 0xD800 || (0xDFFF < cp && cp < 0x110000)

/-- One unit below `0x10000`, a surrogate pair from there on. -/
def utf16Units (cp : Nat) : List UInt16 :=
  if cp < 0x10000 then [cp.toUInt16]
  else
    let v := cp - 0x10000
    [(0xD800 + v / 0x400).toUInt16, (0xDC00 + v % 0x400).toUInt16]

end KeySynth.Text
