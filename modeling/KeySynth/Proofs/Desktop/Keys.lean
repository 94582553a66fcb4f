import KeySynth.Desktop.Basic
import KeySynth.Engine.Emit
import KeySynth.Proofs.Modifier.Mask

/-!
What events do to the keys of a desktop.

The part of a desktop that has to do with keys goes its own way: it does not depend on the cursor,
the clock or the recording. On the modifier keys an event has the effect that the ledger expects
of it, in whatever form it travels, if its scan code names the side that its key has.
-/

namespace KeySynth

open Modifier

/-! ### Sides -/

lemma ScanCode.isNeutral_key (sc : ScanCode) : sc.key.isNeutral = false := by
  unfold key
  split
  · rename_i vk s h
    have := List.find?_some h
    simp at this
    exact this.2
  · rfl

lemma ScanCode.key_zero : ScanCode.key 0 = 0 := by decide

/-- The board has a scan code for every modifier key, and it tells the side. -/
lemma VirtualKey.ofKey?_scan {vk : VirtualKey} {m : Modifier} (h : ofKey? vk = some m) :
    ofKey? vk.scan.key = some m := by
  unfold ofKey? at h
  split_ifs at h with h1 h2 h3 h4 h5 h6 h7 h8 <;> cases h
  · rcases h1 with rfl | rfl <;> decide
  · subst h2; decide
  · rcases h3 with rfl | rfl <;> decide
  · subst h4; decide
  · rcases h5 with rfl | rfl <;> decide
  · subst h6; decide
  · subst h7; decide
  · subst h8; decide

lemma VirtualKey.ofKey?_neutral {vk : VirtualKey} (h : ofKey? vk = none) : vk.neutral = vk := by
  unfold neutral
  split_ifs with h1 h2 h3
  · rcases h1 with rfl | rfl <;> cases h
  · rcases h2 with rfl | rfl <;> cases h
  · rcases h3 with rfl | rfl <;> cases h
  · rfl

lemma VirtualKey.isNeutral_eq_false {vk : VirtualKey} (h : ofKey? vk = none) :
    vk.isNeutral = false := by
  by_contra hn
  simp only [isNeutral, Bool.or_eq_false_iff, beq_eq_false_iff_ne, not_and_or, not_not] at hn
  rcases hn with (rfl | rfl) | rfl <;> cases h

/-- A modifier key without its side is neutral, unless it is a Win key. -/
lemma VirtualKey.neutral_cases {vk : VirtualKey} {m : Modifier} (h : ofKey? vk = some m) :
    vk.neutral.isNeutral = true ∨ vk.neutral = m.key := by
  unfold ofKey? at h
  split_ifs at h with h1 h2 h3 h4 h5 h6 h7 h8 <;> cases h
  · rcases h1 with rfl | rfl <;> decide
  · subst h2; decide
  · rcases h3 with rfl | rfl <;> decide
  · subst h4; decide
  · rcases h5 with rfl | rfl <;> decide
  · subst h6; decide
  · subst h7; decide
  · subst h8; decide

/-- A modifier goes by as a key, under a scan code that has its side. -/
def EventRecord.Sided : EventRecord → Prop
  | .key k => ∀ m, ofKey? k.vk = some m → k.unicode = false ∧ ofKey? k.sc.key = some m
  | .mouse _ | .delay _ => True

/-- A UTF-16 unit that goes down or up. -/
def EventRecord.packet (tag : Tag) (unit : UInt16) (up : Bool) : EventRecord :=
  .key ⟨.packet, unit, up, false, true, tag⟩

/-- Units that go down and up again one by one. -/
def EventRecord.packets (tag : Tag) (units : List UInt16) : List EventRecord :=
  units.flatMap fun u => [packet tag u false, packet tag u true]

namespace Desktop

/-! ### The part that has to do with keys -/

/-- A desktop without what has nothing to do with keys. -/
def keys (d : Desktop) : Desktop := { d with cursor := .zero, clock := 0, log := .empty }

section

variable {d d' : Desktop} (h : d.keys = d'.keys)
include h

lemma keys_down : d.down = d'.down := congrArg (·.down) h
lemma keys_toggled : d.toggled = d'.toggled := congrArg (·.toggled) h
lemma keys_physical : d.physical = d'.physical := congrArg (·.physical) h

lemma keys_isDown (vk : VirtualKey) : d.isDown vk = d'.isDown vk := by
  rw [isDown, isDown, keys_down h, keys_physical h]

end

/-- A modifier is down if its key has been put down or is held by hand. -/
lemma isDown_key_iff {d : Desktop} {m : Modifier} :
    d.isDown m.key = true ↔ m.key ∈ d.down ∨ m ∈ d.physical := by
  simp [isDown, Mask.meets_iff]

/-- A modifier that is not held by hand is down if its key has been put down. -/
lemma isDown_key {d : Desktop} {m : Modifier} (h : m ∉ d.physical) :
    d.isDown m.key = true ↔ m.key ∈ d.down := by
  rw [isDown_key_iff, or_iff_left h]

lemma apply_key (d : Desktop) (k : KeyRecord) : d.apply (.key k) = d.applyKey k := rfl

lemma apply_mouse (d : Desktop) (m : MouseRecord) : d.apply (.mouse m) = d.applyMouse m := rfl

lemma keys_apply (d : Desktop) (e : EventRecord) : (d.apply e).keys = (d.keys.apply e).keys := by
  cases e with
  | key k =>
    rw [apply_key, apply_key]
    unfold applyKey
    split_ifs <;> rfl
  | mouse m =>
    rw [apply_mouse, apply_mouse]
    unfold applyMouse
    split_ifs <;> rfl
  | delay ms => rfl

lemma keys_apply_congr {d d' : Desktop} (h : d.keys = d'.keys) (e : EventRecord) :
    (d.apply e).keys = (d'.apply e).keys := by
  rw [keys_apply, h, ← keys_apply]

lemma keys_foldl_congr {d d' : Desktop} (h : d.keys = d'.keys) (es : List EventRecord) :
    (es.foldl apply d).keys = (es.foldl apply d').keys := by
  induction es generalizing d d' with
  | nil => exact h
  | cons e es ih => exact ih (keys_apply_congr h e)

lemma keys_apply_mouse (d : Desktop) (m : MouseRecord) : (d.apply (.mouse m)).keys = d.keys := by
  rw [apply_mouse]
  unfold applyMouse
  split_ifs <;> rfl

lemma keys_apply_unicode {d : Desktop} {k : KeyRecord} (h : k.unicode = true) :
    (d.apply (.key k)).keys = d.keys := by
  simp [apply, applyKey, h]

/-- Delays have nothing to do with keys. -/
lemma keys_foldl_filter (d : Desktop) (es : List EventRecord) :
    ((es.filter (!·.isDelay)).foldl apply d).keys = (es.foldl apply d).keys := by
  induction es generalizing d with
  | nil => rfl
  | cons e es ih =>
    cases e with
    | delay ms =>
      have hd : d.keys = (d.apply (.delay ms)).keys := rfl
      exact (ih d).trans (keys_foldl_congr hd es)
    | key k => exact ih _
    | mouse m => exact ih _

/-- Packets touch no key. -/
lemma foldl_apply_packets (d : Desktop) (tag : Tag) (units : List UInt16) :
    (EventRecord.packets tag units).foldl apply d = d := by
  induction units with
  | nil => rfl
  | cons u units ih =>
    rw [EventRecord.packets, List.flatMap_cons, List.foldl_append]
    exact ih

lemma keys_take (d : Desktop) (b : Backend) (es : Array EventRecord) :
    (d.take b es).keys = (es.toList.foldl apply d).keys := by
  rw [take, Array.foldl_toList]
  rfl

/-- No event changes what is held by hand, who watches it, how the layout works or whether anything
gets through. -/
lemma apply_eq (d : Desktop) (e : EventRecord) :
    (d.apply e).altgr = d.altgr ∧ (d.apply e).physical = d.physical ∧
      (d.apply e).hook = d.hook ∧ (d.apply e).failing = d.failing := by
  cases e with
  | key k =>
    rw [apply_key]
    unfold applyKey
    split_ifs <;> exact ⟨rfl, rfl, rfl, rfl⟩
  | mouse m =>
    rw [apply_mouse]
    unfold applyMouse
    split_ifs <;> exact ⟨rfl, rfl, rfl, rfl⟩
  | delay ms => exact ⟨rfl, rfl, rfl, rfl⟩

lemma foldl_apply_eq (d : Desktop) (es : List EventRecord) :
    (es.foldl apply d).altgr = d.altgr ∧ (es.foldl apply d).physical = d.physical ∧
      (es.foldl apply d).hook = d.hook ∧ (es.foldl apply d).failing = d.failing := by
  induction es generalizing d with
  | nil => exact ⟨rfl, rfl, rfl, rfl⟩
  | cons e es ih =>
    obtain ⟨ha, hp, hh, hf⟩ := ih (d.apply e)
    obtain ⟨ha', hp', hh', hf'⟩ := d.apply_eq e
    exact ⟨ha.trans ha', hp.trans hp', hh.trans hh', hf.trans hf'⟩

/-! ### What a key does -/

lemma mem_down_applyKey {d : Desktop} {k : KeyRecord} (hu : k.unicode = false) {v : VirtualKey} :
    v ∈ (d.apply (.key k)).down ↔
      if v = keyOf k ∨ d.altgr = true ∧ keyOf k = .ralt ∧ v = .lcontrol then k.up = false
      else v ∈ d.down := by
  simp only [apply, applyKey, hu, Bool.false_eq_true, if_false]
  by_cases ha : (d.altgr && keyOf k == .ralt) = true
  · rw [if_pos ha, KeySet.mem_assign, KeySet.mem_assign]
    rw [Bool.and_eq_true, beq_iff_eq] at ha
    by_cases hl : v = .lcontrol <;> by_cases hk : v = keyOf k <;> simp [ha.1, ha.2, hl, hk]
  · rw [if_neg ha, KeySet.mem_assign]
    rw [Bool.and_eq_true, beq_iff_eq] at ha
    have : ¬(d.altgr = true ∧ keyOf k = .ralt ∧ v = .lcontrol) := fun h => ha ⟨h.1, h.2.1⟩
    simp [this]

lemma mem_toggled_applyKey {d : Desktop} {k : KeyRecord} {v : VirtualKey} :
    v ∈ (d.apply (.key k)).toggled ↔
      if v = keyOf k ∧ k.unicode = false ∧ k.up = false ∧ (keyOf k).isLock = true ∧ v ∉ d.down then
        v ∉ d.toggled
      else v ∈ d.toggled := by
  rw [apply_key]
  unfold applyKey
  by_cases hu : k.unicode = true
  · simp [hu]
  by_cases ht : (!k.up && (keyOf k).isLock && !decide (keyOf k ∈ d.down)) = true
  · rw [if_neg hu]
    simp only [ht, if_true, KeySet.mem_assign]
    simp only [Bool.and_eq_true, Bool.not_eq_true', decide_eq_false_iff_not] at ht
    by_cases hv : v = keyOf k <;> simp [hv, hu, ht]
  · rw [if_neg hu]
    simp only [ht]
    simp only [Bool.and_eq_true, Bool.not_eq_true', decide_eq_false_iff_not, not_and] at ht
    have hn : ¬(v = keyOf k ∧ k.unicode = false ∧ k.up = false ∧ (keyOf k).isLock = true ∧
        v ∉ d.down) := by
      rintro ⟨rfl, -, hup, hl, hd⟩
      exact ht ⟨hup, hl⟩ hd
    rw [if_neg hn]
    rfl

/-- The key that an event moves, in the form in which it travels. -/
def moves (b : Backend) (k : KeyRecord) : VirtualKey :=
  keyOf (if b = .play then { k with vk := k.vk.neutral } else k)

lemma moves_of_none {k : KeyRecord} (h : ofKey? k.vk = none) (b : Backend) : moves b k = k.vk := by
  have hk : keyOf k = k.vk := by simp [keyOf, VirtualKey.isNeutral_eq_false h]
  unfold moves
  rw [VirtualKey.ofKey?_neutral h, ite_self, hk]

lemma moves_of_some {k : KeyRecord} {m : Modifier} (hs : EventRecord.Sided (.key k))
    (hm : ofKey? k.vk = some m) (b : Backend) : moves b k = m.key := by
  obtain ⟨-, hsc⟩ := hs m hm
  have hkey : k.sc.key = m.key := eq_key_of_ofKey? hsc k.sc.isNeutral_key
  have hne : k.sc ≠ 0 := by
    intro h0
    rw [h0, ScanCode.key_zero] at hsc
    cases hsc
  have h : ∀ k' : KeyRecord, k'.sc = k.sc → k'.vk.isNeutral = true ∨ k'.vk = m.key →
      keyOf k' = m.key := by
    rintro k' hk' (hn | hn)
    · simp [keyOf, hn, hk', hne, hkey]
    · simp [keyOf, hn, hk', hkey]
  unfold moves
  split_ifs
  · exact h _ rfl (VirtualKey.neutral_cases hm)
  · refine h k rfl ?_
    by_cases hn : k.vk.isNeutral = true
    · exact .inl hn
    · exact .inr (eq_key_of_ofKey? hm (by simpa using hn))

/-- **The ledger sees what the desktop does**: a key moves the modifier keys that the ledger says,
with the right Alt key dragging the left Control key along on both sides. -/
theorem mem_down_apply_carried {d : Desktop} {k : KeyRecord} (hs : EventRecord.Sided (.key k))
    (b : Backend) (m : Modifier) :
    m.key ∈ (d.apply (EventRecord.carried b (.key k))).down ↔
      if m ∈ Ledger.moved k.vk d.altgr then k.up = false else m.key ∈ d.down := by
  by_cases hu : k.unicode = true
  · have hm : m ∉ Ledger.moved k.vk d.altgr := by
      have hnone : ∀ n, ofKey? k.vk ≠ some n := fun n hn => by simpa [hu] using (hs n hn).1
      rw [Ledger.mem_moved]
      rintro (hv | ⟨-, hv, -⟩)
      · exact hnone m hv
      · exact hnone ralt (ofKey?_eq_ralt.mpr hv)
    rw [if_neg hm, EventRecord.carried, keys_down (keys_apply_unicode _)]
    split_ifs <;> exact hu
  · have hu' : (if b = .play then { k with vk := k.vk.neutral } else k).unicode = false := by
      split_ifs <;> simpa using hu
    have hup : (if b = .play then { k with vk := k.vk.neutral } else k).up = k.up := by
      split_ifs <;> rfl
    have hmv : (m.key = moves b k ∨ d.altgr = true ∧ moves b k = .ralt ∧ m.key = .lcontrol) ↔
        m ∈ Ledger.moved k.vk d.altgr := by
      rw [Ledger.mem_moved]
      have hl : m.key = .lcontrol ↔ m = lctrl := ⟨fun h => key_inj h, fun h => by rw [h]; rfl⟩
      cases hn : ofKey? k.vk with
      | some n =>
        have hr : k.vk = .ralt ↔ n = ralt := by rw [← ofKey?_eq_ralt, hn, Option.some_inj]
        have he : m.key = n.key ↔ n = m := ⟨fun h => (key_inj h).symm, fun h => by rw [h]⟩
        rw [moves_of_some hs hn, Option.some_inj, he, key_eq_ralt, hr, hl]
      | none =>
        have hne : m.key ≠ k.vk := fun h => by rw [← h, ofKey?_key] at hn; cases hn
        have hr : k.vk ≠ .ralt := fun h => by rw [h] at hn; cases hn
        simp [moves_of_none hn, hne, hr]
    rw [EventRecord.carried, mem_down_applyKey hu', hup]
    exact ite_congr (propext hmv) (fun _ => rfl) (fun _ => rfl) ▸ Iff.rfl

end Desktop

end KeySynth
