import KeySynth.Text.Number
import KeySynth.Toml.Value

/-!
Integers and floats.

An underscore may stand between two digits. Integers are taken up to 128 bits; a float must not
overflow to infinity.
-/

namespace KeySynth.Toml

open Text

/-- Digits without the underscores between them. -/
def ungroup : List Char → Option (List Char)
  | [] => none
  | [c] => if c = '_' then none else some [c]
  | c :: d :: cs =>
    if c = '_' then none
    else if d = '_' then (ungroup cs).map (c :: ·)
    else (ungroup (d :: cs)).map (c :: ·)

/-- The value of grouped digits. -/
def grouped? (base : Nat) (cs : List Char) : Option Nat := (ungroup cs).bind (digits? base)

/-- No zero leads other digits. -/
def isCanonical : List Char → Bool
  | '0' :: _ :: _ => false
  | _ => true

/-- A sign, and what follows it. -/
def takeSign : List Char → Bool × List Char
  | '+' :: cs => (false, cs)
  | '-' :: cs => (true, cs)
  | cs => (false, cs)

def signed (negative : Bool) (n : Nat) : Int := if negative then -(n : Int) else n

/-- An integer of any size. -/
def integer? : List Char → Option Int
  | '0' :: 'x' :: cs => (grouped? 16 cs).map Int.ofNat
  | '0' :: 'o' :: cs => (grouped? 8 cs).map Int.ofNat
  | '0' :: 'b' :: cs => (grouped? 2 cs).map Int.ofNat
  | cs =>
    let (negative, ds) := takeSign cs
    if isCanonical ds then (grouped? 10 ds).map (signed negative) else none

def fits128 (n : Int) : Bool := -Int.pow 2 127 ≤ n && n < Int.pow 2 128

/-- The parts of a decimal: whole digits, digits after the point, exponent. -/
structure Decimal where
  whole : List Char
  fraction : List Char
  exponent : Int

namespace Decimal

/-- The digits as one number. -/
def mantissa (d : Decimal) : Nat := (digits? 10 (d.whole ++ d.fraction)).getD 0

/-- The power of ten that the last digit stands for. -/
def scale (d : Decimal) : Int := d.exponent - d.fraction.length

/-- The least number that a double takes for infinity: halfway to the next power of two. -/
def overflow : Nat := Nat.pow 2 1024 - Nat.pow 2 970

/-- The decimal is too large for a double. The first two tests spare huge powers. -/
def overflows (d : Decimal) : Bool :=
  let m := d.mantissa
  let size := (Nat.toDigits 10 m).length + d.scale
  if m = 0 || size ≤ 300 then false
  else if 320 ≤ size then true
  else if 0 ≤ d.scale then overflow ≤ m * Nat.pow 10 d.scale.toNat
  else overflow * Nat.pow 10 (-d.scale).toNat ≤ m

end Decimal

def isExponentMark (c : Char) : Bool := c == 'e' || c == 'E'

/-- The exponent after its mark; none is an exponent of zero. -/
def exponent? : List Char → Option Int
  | [] => some 0
  | _ :: cs =>
    let (negative, ds) := takeSign cs
    (grouped? 10 ds).map (signed negative)

/-- The digits after the point, empty if there is no point. -/
def fraction? : List Char → Option (List Char)
  | '.' :: ds => (ungroup ds).filter (·.all Char.isDigit)
  | [] => some []
  | _ => none

/-- The decimal of a float without its sign. -/
def decimal? (cs : List Char) : Option Decimal := do
  let number := cs.takeWhile (!isExponentMark ·)
  let exponent ← exponent? (cs.dropWhile (!isExponentMark ·))
  let whole ← (ungroup (number.takeWhile (· != '.'))).filter fun ds =>
    ds.all Char.isDigit && isCanonical ds
  let fraction ← fraction? (number.dropWhile (· != '.'))
  some ⟨whole, fraction, exponent⟩

/-- A float: `inf`, `nan` or a decimal. The outer level tells whether it is one, the inner whether
a double can hold it. -/
def float? (cs : List Char) : Option Bool :=
  let (_, cs) := takeSign cs
  if cs = ['i', 'n', 'f'] ∨ cs = ['n', 'a', 'n'] then some true
  else (decimal? cs).map (!·.overflows)

end KeySynth.Toml
