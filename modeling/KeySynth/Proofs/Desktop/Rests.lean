import KeySynth.Proofs.Desktop.Keys
import KeySynth.Proofs.Key.UsLayout

/-!
What presses leave down on a desktop.

A key that goes down and up again leaves down what was down before, and only a lock key that goes
down switches a lock.
-/

namespace KeySynth

open Modifier

/-- The own key of a modifier. -/
def ModifierKey (v : VirtualKey) : Prop := ∃ m : Modifier, v = m.key

lemma ModifierKey.isLock_eq_false {v : VirtualKey} (h : ModifierKey v) : v.isLock = false := by
  obtain ⟨m, rfl⟩ := h
  cases m <;> decide

/-- The locks that are on once `w` has been switched. -/
def switched (w : VirtualKey) (T : VirtualKey → Prop) (v : VirtualKey) : Prop :=
  if v = w then ¬T v else T v

lemma switched_switched (w : VirtualKey) (T : VirtualKey → Prop) :
    switched w (switched w T) = T := by
  funext v
  unfold switched
  split_ifs
  · exact propext not_not
  · rfl

namespace Desktop

/-- Only keys with `S` are down, and the locks with `T` are on. -/
structure Rests (S T : VirtualKey → Prop) (d : Desktop) : Prop where
  down : ∀ v ∈ d.down, S v
  toggled : ∀ v, v ∈ d.toggled ↔ T v

namespace Rests

variable {S T : VirtualKey → Prop} {d : Desktop} {k : KeyRecord}

lemma congr {d' : Desktop} (h : Rests S T d) (hk : d'.keys = d.keys) : Rests S T d' := by
  refine ⟨fun v hv => h.down v ?_, fun v => ?_⟩
  · rwa [← keys_down hk]
  · rw [keys_toggled hk]
    exact h.toggled v

lemma down_press (h : Rests S T d) (hc : S .lcontrol) (hu : k.unicode = false) :
    ∀ v ∈ (d.apply (.key k)).down, v = keyOf k ∨ S v := by
  intro v hv
  rw [mem_down_applyKey hu] at hv
  split_ifs at hv with hmv
  · rcases hmv with hk | ⟨-, -, rfl⟩
    · exact .inl hk
    · exact .inr hc
  · exact .inr (h.down v hv)

lemma press (h : Rests S T d) (hc : S .lcontrol) (hu : k.unicode = false)
    (hl : (keyOf k).isLock = false) :
    Rests (fun v => v = keyOf k ∨ S v) T (d.apply (.key k)) := by
  refine ⟨h.down_press hc hu, fun v => ?_⟩
  rw [mem_toggled_applyKey, if_neg (by simp [hl])]
  exact h.toggled v

lemma pressLock (h : Rests S T d) (hc : S .lcontrol) (hu : k.unicode = false) (hup : k.up = false)
    (hl : (keyOf k).isLock = true) (hS : ¬S (keyOf k)) :
    Rests (fun v => v = keyOf k ∨ S v) (switched (keyOf k) T) (d.apply (.key k)) := by
  refine ⟨h.down_press hc hu, fun v => ?_⟩
  rw [mem_toggled_applyKey]
  unfold switched
  by_cases hv : v = keyOf k
  · have hd : v ∉ d.down := fun hd => hS (hv ▸ h.down v hd)
    rw [if_pos ⟨hv, hu, hup, hl, hd⟩, if_pos hv, h.toggled]
  · rw [if_neg (fun hk => hv hk.1), if_neg hv]
    exact h.toggled v

lemma release (h : Rests (fun v => v = keyOf k ∨ S v) T d) (hu : k.unicode = false)
    (hup : k.up = true) : Rests S T (d.apply (.key k)) := by
  refine ⟨fun v hv => ?_, fun v => ?_⟩
  · rw [mem_down_applyKey hu, hup] at hv
    split_ifs at hv with hmv
    · exact (h.down v hv).resolve_left fun hk => hmv (.inl hk)
  · rw [mem_toggled_applyKey, if_neg (by simp [hup])]
    exact h.toggled v

end Rests

end Desktop

/-- Every character that the desktop has a key for has one that types. -/
lemma Desktop.typing_chord? {c : Char} {l : LayoutId} {k : Chord} (h : chord? c l = some k) :
    k.vk.Typing := by
  unfold chord? at h
  split_ifs at h
  · cases h
    decide
  · obtain ⟨t, ht, rfl⟩ := Option.map_eq_some_iff.mp h
    exact UsLayout.typing_key? ht

end KeySynth
