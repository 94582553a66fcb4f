/-!
White space: the characters of the Unicode property of that name.
-/

namespace KeySynth.Text

/-- White space beyond ASCII, as ranges of code points. -/
def blankRanges : List (Nat × Nat) :=
  [(0x85, 0x85), (0xA0, 0xA0), (0x1680, 0x1680), (0x2000, 0x200A), (0x2028, 0x2029),
   (0x202F, 0x202F), (0x205F, 0x205F), (0x3000, 0x3000)]

def isBlank (c : Char) : Bool :=
  c == ' ' || (0x09 ≤ c.toNat && c.toNat ≤ 0x0D) ||
    blankRanges.any fun (lo, hi) => lo ≤ c.toNat && c.toNat ≤ hi

/-- The text without white space at its ends. -/
def trim (cs : List Char) : List Char :=
  ((cs.dropWhile isBlank).reverse.dropWhile isBlank).reverse

/-- The pieces between separators. -/
def split (isSep : Char → Bool) (cs : List Char) : List (List Char) :=
  let (p, ps) := cs.foldr
    (fun c (p, ps) => if isSep c then ([], p :: ps) else (c :: p, ps)) ([], [])
  p :: ps

end KeySynth.Text
