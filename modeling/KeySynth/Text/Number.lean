/-!
Numbers written as digits.

Digits and bases are ASCII. A number may start with a plus sign where signs are read at all, and
must fit the range asked for.
-/

namespace KeySynth.Text

/-- The value of a digit in base `base`, letters of either case standing for ten and up. -/
def digit? (base : Nat) (c : Char) : Option Nat :=
  let v :=
    if '0' ≤ c ∧ c ≤ '9' then some (c.toNat - '0'.toNat)
    else if 'a' ≤ c ∧ c ≤ 'z' then some (c.toNat - 'a'.toNat + 10)
    else if 'A' ≤ c ∧ c ≤ 'Z' then some (c.toNat - 'A'.toNat + 10)
    else none
  v.filter (· < base)

/-- The number that a non-empty row of digits writes. -/
def digits? (base : Nat) : List Char → Option Nat
  | [] => none
  | cs => cs.foldlM (fun n c => (digit? base c).map (n * base + ·)) 0

def dropPlus : List Char → List Char
  | '+' :: cs => cs
  | cs => cs

/-- A number below `bound`. -/
def natural? (base bound : Nat) (cs : List Char) : Option Nat :=
  (digits? base (dropPlus cs)).filter (· < bound)

/-- A signed number of 32 bits. -/
def integer? : List Char → Option Int
  | '-' :: cs => ((digits? 10 cs).filter (· ≤ 0x80000000)).map fun n => -(n : Int)
  | cs => (natural? 10 0x80000000 cs).map fun n => (n : Int)

/-- The 32-bit word `w` read as a signed number. -/
def signed (w : UInt32) : Int := if w.toNat < 0x80000000 then w.toNat else w.toNat - UInt32.size

/-- Hexadecimal digits, at least `width` of them. -/
def hex (upper : Bool) (width n : Nat) : String :=
  let ds := Nat.toDigits 16 n
  let ds := if upper then ds.map Char.toUpper else ds
  String.ofList (List.replicate (width - ds.length) '0' ++ ds)

end KeySynth.Text
