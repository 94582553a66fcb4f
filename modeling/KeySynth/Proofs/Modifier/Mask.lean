import Mathlib.Tactic.Common
import KeySynth.Ledger.Basic
import KeySynth.Modifier.Plan

/-!
Members of the modifier sets that keys, steps and wishes come to. With these the sets are never
looked into again.
-/

namespace KeySynth

open Modifier

@[simp] lemma Modifier.key_ne_zero (m : Modifier) : m.key ≠ 0 := by cases m <;> decide

lemma Modifier.key_inj {m n : Modifier} (h : m.key = n.key) : m = n := by
  have := congrArg ofKey? h
  simpa using this

@[simp] lemma Modifier.key_eq_ralt {m : Modifier} : m.key = .ralt ↔ m = ralt := by
  cases m <;> decide

/-- A key that is not neutral produces a modifier only if it is that modifier's own key. -/
lemma Modifier.eq_key_of_ofKey? {vk : VirtualKey} {m : Modifier} (h : ofKey? vk = some m)
    (hn : vk.isNeutral = false) : vk = m.key := by
  simp only [VirtualKey.isNeutral, Bool.or_eq_false_iff, beq_eq_false_iff_ne] at hn
  obtain ⟨⟨hs, hc⟩, ha⟩ := hn
  unfold ofKey? at h
  split_ifs at h with h1 h2 h3 h4 h5 h6 h7 h8 <;> cases h
  · exact h1.resolve_right hc
  · exact h2
  · exact h3.resolve_right ha
  · exact h4
  · exact h5.resolve_right hs
  · exact h6
  · exact h7
  · exact h8

lemma Modifier.ofKey?_eq_ralt {vk : VirtualKey} : ofKey? vk = some ralt ↔ vk = .ralt := by
  refine ⟨fun h => ?_, fun h => by subst h; decide⟩
  unfold ofKey? at h
  split_ifs at h with h1 h2 h3 h4 <;> first | exact h4 | cases h

namespace Mask

@[simp] lemma mem_assign {m : Modifier} {s t : Mask} {b : Bool} :
    m ∈ s.assign t b ↔ if m ∈ t then b = true else m ∈ s := by
  cases b <;> by_cases h : m ∈ t <;> simp [assign, h]

@[simp] lemma mem_ofKey {m : Modifier} {vk : VirtualKey} :
    m ∈ ofKey vk ↔ ofKey? vk = some m := by
  unfold ofKey
  cases h : ofKey? vk with
  | none => simp [ofOption]
  | some n => simp [ofOption, eq_comm]

@[simp] lemma mem_alt {m : Modifier} : m ∈ alt ↔ m = lalt ∨ m = ralt := by simp [alt]
@[simp] lemma mem_win {m : Modifier} : m ∈ win ↔ m = lwin ∨ m = rwin := by simp [win]

@[simp] lemma mem_settled {m : Modifier} {altgr : Bool} {s : Mask} :
    m ∈ s.settled altgr ↔ m ∈ s ∨ altgr = true ∧ ralt ∈ s ∧ m = lctrl := by
  unfold settled
  split_ifs with h
  · simp [h]
  · simp only [iff_self_or]
    rintro ⟨ha, hs, -⟩
    exact absurd ⟨ha, hs⟩ h

lemma meets_eq_false {s t : Mask} : s.meets t = false ↔ ∀ m : Modifier, m ∈ s → m ∉ t := by
  rw [← Bool.not_eq_true, meets_iff]
  refine ⟨fun h m hs ht => h ⟨m, hs, ht⟩, ?_⟩
  rintro h ⟨m, hs, ht⟩
  exact h m hs ht

@[simp] lemma empty_settled (altgr : Bool) : settled altgr ∅ = ∅ := ext fun m => by simp

@[simp] lemma assign_empty (s : Mask) (b : Bool) : s.assign ∅ b = s := ext fun m => by simp

lemma union_empty (s : Mask) : s ∪ ∅ = s := ext fun m => by simp

lemma union_assoc (s t u : Mask) : s ∪ t ∪ u = s ∪ (t ∪ u) := ext fun m => by simp [or_assoc]

lemma eq_empty_iff {s : Mask} : s = ∅ ↔ ∀ m : Modifier, m ∉ s :=
  ⟨fun h m => by simp [h], fun h => ext fun m => by simp [h m]⟩

lemma subset_trans {s t u : Mask} (h : s ⊆ t) (h' : t ⊆ u) : s ⊆ u :=
  subset_iff.mpr fun m hm => subset_iff.mp h' m (subset_iff.mp h m hm)

lemma subset_refl (s : Mask) : s ⊆ s := subset_iff.mpr fun _ h => h

lemma subset_settled (altgr : Bool) (s : Mask) : s ⊆ s.settled altgr :=
  subset_iff.mpr fun m hm => by simp [hm]

end Mask

@[simp] lemma Modifier.mem_drags {m n : Modifier} {altgr : Bool} :
    n ∈ m.drags altgr ↔ n = m ∨ altgr = true ∧ m = ralt ∧ n = lctrl := by
  unfold drags
  split_ifs with h
  · simp [h]
  · simp only [Mask.mem_singleton, iff_self_or]
    rintro ⟨ha, hm, -⟩
    exact absurd ⟨ha, hm⟩ h

namespace Ledger

@[simp] lemma mem_moved {n : Modifier} {vk : VirtualKey} {altgr : Bool} :
    n ∈ moved vk altgr ↔ ofKey? vk = some n ∨ altgr = true ∧ vk = .ralt ∧ n = lctrl := by
  unfold moved
  split_ifs with h
  · obtain ⟨ha, hk⟩ := h
    have : ofKey? VirtualKey.ralt = some ralt := by decide
    simp [ha, hk, this, eq_comm]
  · simp only [Mask.mem_ofKey, iff_self_or]
    rintro ⟨ha, hk, -⟩
    exact absurd ⟨ha, hk⟩ h

lemma moved_of_none {vk : VirtualKey} (h : ofKey? vk = none) (altgr : Bool) :
    moved vk altgr = ∅ := by
  refine Mask.eq_empty_iff.mpr fun m hm => ?_
  rw [mem_moved, h] at hm
  rcases hm with ⟨⟨⟩⟩ | ⟨-, hr, -⟩
  rw [← ofKey?_eq_ralt, h] at hr
  cases hr

/-- The ledger and the plans agree on what a modifier's key moves. -/
@[simp] lemma moved_key (m : Modifier) (altgr : Bool) : moved m.key altgr = m.drags altgr :=
  Mask.ext fun n => by simp [@eq_comm _ m n]

@[simp] lemma logical_noteKey (l : Ledger) (vk : VirtualKey) (up : Bool) (info : Tag)
    (altgr : Bool) :
    (l.noteKey vk up info altgr).logical = l.logical.assign (moved vk altgr) !up := by
  unfold noteKey
  dsimp only
  split_ifs <;> rfl

end Ledger

end KeySynth
