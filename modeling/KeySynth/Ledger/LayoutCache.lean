/-!
Which keyboard layouts have an AltGr key, remembered.

The cache holds the first few layouts it is asked about and never lets one go. Once it is full
an unknown layout is looked up every time.
-/

namespace KeySynth

abbrev LayoutId := Nat

structure LayoutCache where
  entries : List (LayoutId × Bool)
deriving DecidableEq, Repr

namespace LayoutCache

def capacity : Nat := 10

def empty : LayoutCache := ⟨[]⟩

def size (c : LayoutCache) : Nat := c.entries.length

/-- What the cache holds on a layout. -/
def get? (c : LayoutCache) (layout : LayoutId) : Option Bool := c.entries.lookup layout

/-- Whether a layout has AltGr, asking `probe` unless the cache knows. -/
def hasAltGr (c : LayoutCache) (layout : LayoutId) (probe : LayoutId → Bool) :
    Bool × LayoutCache :=
  match c.get? layout with
  | some b => (b, c)
  | none =>
    let b := probe layout
    (b, if c.size < capacity then ⟨c.entries ++ [(layout, b)]⟩ else c)

end LayoutCache

end KeySynth
