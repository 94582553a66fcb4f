import KeySynth.Key.Scan

/-!
The eight modifier keys and sets of them.

A set is a byte with one bit for each key. It is used through membership: `Mask.ext` says that
the members decide a set, and each operation has a lemma on the members of its result.
-/

namespace KeySynth

inductive Modifier where
  | lctrl | rctrl | lalt | ralt | lshift | rshift | lwin | rwin
deriving DecidableEq, Repr

namespace Modifier

/-- All modifiers, in the order of their bits. -/
def all : List Modifier := [lctrl, rctrl, lalt, ralt, lshift, rshift, lwin, rwin]

def index : Modifier → Nat
  | lctrl => 0 | rctrl => 1 | lalt => 2 | ralt => 3
  | lshift => 4 | rshift => 5 | lwin => 6 | rwin => 7

/-- The key that produces the modifier. -/
def key : Modifier → VirtualKey
  | lctrl => .lcontrol | rctrl => .rcontrol | lalt => .lalt | ralt => .ralt
  | lshift => .lshift | rshift => .rshift | lwin => .lwin | rwin => .rwin

/-- The scan code of that key. -/
def scan (m : Modifier) : ScanCode := m.key.scan

/-- The modifier that a key produces; a neutral key stands for the left one. -/
def ofKey? (vk : VirtualKey) : Option Modifier :=
  if vk = .lcontrol ∨ vk = .control then some lctrl
  else if vk = .rcontrol then some rctrl
  else if vk = .lalt ∨ vk = .alt then some lalt
  else if vk = .ralt then some ralt
  else if vk = .lshift ∨ vk = .shift then some lshift
  else if vk = .rshift then some rshift
  else if vk = .lwin then some lwin
  else if vk = .rwin then some rwin
  else none

/-- The left modifier that a symbol in front of a key asks for. -/
def ofSymbol? : Char → Option Modifier
  | '^' => some lctrl
  | '+' => some lshift
  | '!' => some lalt
  | '#' => some lwin
  | _ => none

/-- The right modifier of the same class. -/
def right : Modifier → Modifier
  | lctrl | rctrl => rctrl
  | lalt | ralt => ralt
  | lshift | rshift => rshift
  | lwin | rwin => rwin

theorem mem_all (m : Modifier) : m ∈ all := by cases m <;> decide

theorem index_lt (m : Modifier) : m.index < 8 := by cases m <;> decide

@[simp] theorem ofKey?_key (m : Modifier) : ofKey? m.key = some m := by cases m <;> decide

end Modifier

/-- Whether a key is a modifier key. -/
def VirtualKey.isModifier (vk : VirtualKey) : Bool := (Modifier.ofKey? vk).isSome

/-- A set of modifiers. -/
structure Mask where
  bits : BitVec 8
deriving DecidableEq, Repr

namespace Mask

instance : Membership Modifier Mask := ⟨fun s m => s.bits.getLsbD m.index = true⟩

instance (m : Modifier) (s : Mask) : Decidable (m ∈ s) :=
  inferInstanceAs (Decidable (s.bits.getLsbD m.index = true))

instance : EmptyCollection Mask := ⟨⟨0⟩⟩
instance : Inhabited Mask := ⟨∅⟩
instance : Singleton Modifier Mask := ⟨fun m => ⟨1#8 <<< m.index⟩⟩
instance : Union Mask := ⟨fun s t => ⟨s.bits ||| t.bits⟩⟩
instance : Inter Mask := ⟨fun s t => ⟨s.bits &&& t.bits⟩⟩
instance : SDiff Mask := ⟨fun s t => ⟨s.bits &&& ~~~t.bits⟩⟩
instance : HasSubset Mask := ⟨fun s t => s ∩ t = s⟩
instance (s t : Mask) : Decidable (s ⊆ t) := inferInstanceAs (Decidable (s ∩ t = s))

theorem ext {s t : Mask} (h : ∀ m : Modifier, m ∈ s ↔ m ∈ t) : s = t := by
  cases s with | mk a
  cases t with | mk b
  congr 1
  apply BitVec.eq_of_getLsbD_eq
  intro i hi
  have key : ∀ m : Modifier, a.getLsbD m.index = b.getLsbD m.index := fun m => by
    have := h m
    simp only [Membership.mem] at this
    exact Bool.eq_iff_iff.mpr this
  have : i = 0 ∨ i = 1 ∨ i = 2 ∨ i = 3 ∨ i = 4 ∨ i = 5 ∨ i = 6 ∨ i = 7 := by omega
  rcases this with rfl | rfl | rfl | rfl | rfl | rfl | rfl | rfl
  · exact key .lctrl
  · exact key .rctrl
  · exact key .lalt
  · exact key .ralt
  · exact key .lshift
  · exact key .rshift
  · exact key .lwin
  · exact key .rwin

@[simp] theorem not_mem_empty (m : Modifier) : ¬ m ∈ (∅ : Mask) := by cases m <;> decide

@[simp] theorem mem_singleton {m n : Modifier} : m ∈ ({n} : Mask) ↔ m = n := by
  cases m <;> cases n <;> decide

@[simp] theorem mem_union {m : Modifier} {s t : Mask} : m ∈ s ∪ t ↔ m ∈ s ∨ m ∈ t := by
  show (s.bits ||| t.bits).getLsbD m.index = true ↔ _
  rw [BitVec.getLsbD_or, Bool.or_eq_true]
  rfl

@[simp] theorem mem_inter {m : Modifier} {s t : Mask} : m ∈ s ∩ t ↔ m ∈ s ∧ m ∈ t := by
  show (s.bits &&& t.bits).getLsbD m.index = true ↔ _
  rw [BitVec.getLsbD_and, Bool.and_eq_true]
  rfl

@[simp] theorem mem_sdiff {m : Modifier} {s t : Mask} : m ∈ s \ t ↔ m ∈ s ∧ ¬ m ∈ t := by
  show (s.bits &&& ~~~t.bits).getLsbD m.index = true ↔ _
  rw [BitVec.getLsbD_and, BitVec.getLsbD_not, Bool.and_eq_true]
  simp [m.index_lt, Membership.mem]

theorem subset_iff {s t : Mask} : s ⊆ t ↔ ∀ m : Modifier, m ∈ s → m ∈ t := by
  constructor
  · intro h m hm
    have h' : s ∩ t = s := h
    rw [← h'] at hm
    exact (mem_inter.mp hm).2
  · intro h
    exact ext fun m => by simp; exact h m

/-- The two sets share a modifier. -/
def meets (s t : Mask) : Bool := s ∩ t ≠ ∅

theorem meets_iff {s t : Mask} : s.meets t = true ↔ ∃ m : Modifier, m ∈ s ∧ m ∈ t := by
  simp only [meets, decide_eq_true_eq]
  constructor
  · intro h
    apply Classical.byContradiction
    intro hn
    exact h (ext fun m => by simp; exact fun a b => hn ⟨m, a, b⟩)
  · rintro ⟨m, hs, ht⟩ h
    have : m ∈ s ∩ t := mem_inter.mpr ⟨hs, ht⟩
    rw [h] at this
    exact not_mem_empty m this

def ofOption : Option Modifier → Mask
  | some m => {m}
  | none => ∅

/-- The modifier of a key as a set. -/
def ofKey (vk : VirtualKey) : Mask := ofOption (Modifier.ofKey? vk)

/-- The one modifier of a set that has just one. -/
def only? (s : Mask) : Option Modifier := Modifier.all.find? fun m => s = {m}

def ctrl : Mask := {.lctrl} ∪ {.rctrl}
def alt : Mask := {.lalt} ∪ {.ralt}
def shift : Mask := {.lshift} ∪ {.rshift}
def win : Mask := {.lwin} ∪ {.rwin}

/-- Both sides of every class that `s` touches. -/
def classes (s : Mask) : Mask :=
  [ctrl, alt, shift, win].foldl (fun t c => if s.meets c then t ∪ c else t) ∅

/-- Puts the members of `t` in or takes them out. -/
def assign (s t : Mask) (present : Bool) : Mask := if present then s ∪ t else s \ t

end Mask

end KeySynth
