import KeySynth.Key.Code

/-!
Sets of virtual keys.
-/

namespace KeySynth

/-- One bit for each key. -/
structure KeySet where
  bits : BitVec 256
deriving DecidableEq, Repr

namespace KeySet

instance : Membership VirtualKey KeySet := ⟨fun s vk => s.bits.getLsbD vk.toNat = true⟩

instance (vk : VirtualKey) (s : KeySet) : Decidable (vk ∈ s) :=
  inferInstanceAs (Decidable (s.bits.getLsbD vk.toNat = true))

instance : EmptyCollection KeySet := ⟨⟨0⟩⟩

/-- Puts a key in or takes it out. -/
def assign (s : KeySet) (vk : VirtualKey) (present : Bool) : KeySet :=
  let bit : BitVec 256 := 1#256 <<< vk.toNat
  if present then ⟨s.bits ||| bit⟩ else ⟨s.bits &&& ~~~bit⟩

/-- The members in ascending order. -/
def toList (s : KeySet) : List VirtualKey :=
  ((List.range 256).map Nat.toUInt8).filter (· ∈ s)

theorem not_mem_empty (vk : VirtualKey) : ¬ vk ∈ (∅ : KeySet) := by
  show ¬ (0#256).getLsbD vk.toNat = true
  simp

theorem mem_assign {s : KeySet} {v w : VirtualKey} {b : Bool} :
    v ∈ s.assign w b ↔ if v = w then b = true else v ∈ s := by
  have hv : v.toNat < 256 := v.toNat_lt
  have hbit : (1#256 <<< w.toNat).getLsbD v.toNat = decide (v = w) := by
    rw [BitVec.getLsbD_shiftLeft, BitVec.getLsbD_one]
    by_cases h : v = w
    · subst h; simp [hv]
    · have hne : v.toNat ≠ w.toNat := fun e => h (UInt8.toNat_inj.mp e)
      simp [h]
      omega
  cases b
  · show (s.bits &&& ~~~(1#256 <<< w.toNat)).getLsbD v.toNat = true ↔ _
    rw [BitVec.getLsbD_and, BitVec.getLsbD_not, hbit]
    by_cases h : v = w <;> simp [h, hv, Membership.mem]
  · show (s.bits ||| (1#256 <<< w.toNat)).getLsbD v.toNat = true ↔ _
    rw [BitVec.getLsbD_or, hbit]
    by_cases h : v = w <;> simp [h, Membership.mem]

end KeySet

end KeySynth
