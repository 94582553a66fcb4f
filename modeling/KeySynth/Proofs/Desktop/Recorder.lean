import KeySynth.Desktop.Bench
import KeySynth.Proofs.Desktop.Keys

/-!
Platforms that record on a desktop.

As far as keys go such a platform is its desktop, on the US board. It takes a batch whole, in part
or not at all, and its keys follow what it has taken.
-/

namespace KeySynth

open Desktop

class Recorder (P : Type) [Platform P] where
  desktop : P → Desktop
  /-- Events that are injected one by one all get through. -/
  works : P → Prop
  isDown_eq (p : P) (vk : VirtualKey) : Platform.isDown p vk = (desktop p).isDown vk
  isToggled_eq (p : P) (vk : VirtualKey) :
    Platform.isToggled p vk = decide (vk ∈ (desktop p).toggled)
  scanOf_eq (p : P) (vk : VirtualKey) (l : LayoutId) : Platform.scanOf p vk l = vk.scan
  keyAt_eq (p : P) (sc : ScanCode) (l : LayoutId) : Platform.keyAt p sc l = sc.key
  keys_sleep (p : P) (ms : Nat) : (desktop (Platform.sleep p ms)).keys = (desktop p).keys
  keys_wait (p : P) (ms : Nat) : (desktop (Platform.wait p ms)).keys = (desktop p).keys
  keys_inject {p q : P} {es : Array EventRecord} {n : Nat} :
    Platform.inject p es = (.ok n, q) →
      (desktop q).keys = ((es.toList.take n).foldl apply (desktop p)).keys
  keys_inject_error {p q : P} {es : Array EventRecord} {f : Fault} :
    Platform.inject p es = (.error f, q) → (desktop q).keys = (desktop p).keys
  keys_play {p q : P} {es : Array EventRecord} {u : Unit} :
    Platform.play p es = (.ok u, q) → (desktop q).keys = (es.toList.foldl apply (desktop p)).keys
  keys_play_error {p q : P} {es : Array EventRecord} {f : Fault} :
    Platform.play p es = (.error f, q) → (desktop q).keys = (desktop p).keys
  works_sleep {p : P} (ms : Nat) : works p → works (Platform.sleep p ms)
  works_wait {p : P} (ms : Nat) : works p → works (Platform.wait p ms)
  works_inject {p : P} (e : EventRecord) : works p →
    (desktop (Platform.inject p #[e]).2).keys = ((desktop p).apply e).keys ∧
      works (Platform.inject p #[e]).2

namespace Desktop

lemma inject_eq_ok {d d' : Desktop} {es : Array EventRecord} {n : Nat}
    (h : d.inject es = (.ok n, d')) : n = es.size ∧ d' = d.take .input es := by
  unfold inject at h
  split_ifs at h <;> cases h
  exact ⟨rfl, rfl⟩

lemma inject_eq_error {d d' : Desktop} {es : Array EventRecord} {f : Fault}
    (h : d.inject es = (.error f, d')) : d' = d := by
  unfold inject at h
  split_ifs at h <;> cases h
  rfl

lemma play_eq_ok {d d' : Desktop} {es : Array EventRecord} {u : Unit}
    (h : d.play es = (.ok u, d')) : d' = d.take .play es := by
  unfold play at h
  split_ifs at h <;> cases h
  rfl

lemma play_eq_error {d d' : Desktop} {es : Array EventRecord} {f : Fault}
    (h : d.play es = (.error f, d')) : d' = d := by
  unfold play at h
  split_ifs at h <;> cases h
  rfl

lemma inject_works {d : Desktop} (h : d.failing = false) (es : Array EventRecord) :
    d.inject es = (.ok es.size, d.take .input es) := by
  simp [inject, h]

lemma failing_take (d : Desktop) (b : Backend) (es : Array EventRecord) :
    (d.take b es).failing = d.failing := by
  rw [take, ← Array.foldl_toList]
  exact (d.foldl_apply_eq es.toList).2.2.2

/-- Events are recorded when they are taken, not by what they do. -/
lemma log_apply (d : Desktop) (e : EventRecord) : (d.apply e).log = d.log := by
  cases e with
  | key k =>
    rw [apply_key]
    unfold applyKey
    split_ifs <;> rfl
  | mouse m =>
    rw [apply_mouse]
    unfold applyMouse
    split_ifs <;> rfl
  | delay ms => rfl

lemma log_take (d : Desktop) (b : Backend) (es : Array EventRecord) :
    (d.take b es).log = { d.log with
      events := d.log.events ++ es.filter (!·.isDelay)
      flushes := d.log.flushes.push ⟨b, es.size⟩ } := by
  have h : (es.foldl apply d).log = d.log := by
    rw [← Array.foldl_toList]
    induction es.toList generalizing d with
    | nil => rfl
    | cons e es ih => exact (ih (d.apply e)).trans (d.log_apply e)
  rw [take, h]

/-- The layout in focus has AltGr exactly if the desktop has it. -/
lemma hasAltGr_focused (d : Desktop) (w : Option WindowId) :
    Platform.hasAltGr d (Platform.focusedLayout d w) = d.altgr := by
  change ((if d.altgr then altgrLayout else usLayout) == altgrLayout) = d.altgr
  cases d.altgr <;> rfl

instance : Recorder Desktop where
  desktop := id
  works d := d.failing = false
  isDown_eq _ _ := rfl
  isToggled_eq _ _ := rfl
  scanOf_eq _ _ _ := rfl
  keyAt_eq _ _ _ := rfl
  keys_sleep _ _ := rfl
  keys_wait _ _ := rfl
  keys_inject := by
    intro p q es n h
    obtain ⟨rfl, rfl⟩ := inject_eq_ok h
    rw [← Array.length_toList, List.take_length]
    exact p.keys_take .input es
  keys_inject_error h := by rw [inject_eq_error h]
  keys_play := by
    intro p q es u h
    rw [play_eq_ok h]
    exact p.keys_take .play es
  keys_play_error h := by rw [play_eq_error h]
  works_sleep _ h := h
  works_wait _ h := h
  works_inject := by
    intro p e h
    change (p.inject #[e]).2.keys = _ ∧ (p.inject #[e]).2.failing = false
    rw [inject_works h]
    exact ⟨p.keys_take .input #[e], (p.failing_take .input #[e]).trans h⟩

end Desktop

namespace Bench

lemma toList_accepted (b : Bench) (es : Array EventRecord) :
    (b.accepted es).toList = es.toList.take (b.accepted es).size := by
  unfold accepted
  cases b.limit with
  | none => exact (List.take_of_length_le (by simp)).symm
  | some n => simp

lemma hasAltGr_focused {b : Bench} (hlayout : b.layout = none) (hlayouts : b.altgrLayouts = [])
    (w : Option WindowId) :
    Platform.hasAltGr b (Platform.focusedLayout b w) = b.desktop.altgr := by
  change (b.altgrLayouts.contains (b.layout.getD _) ||
    Platform.hasAltGr b.desktop (b.layout.getD (Platform.focusedLayout b.desktop w))) = _
  rw [hlayout, hlayouts, ← b.desktop.hasAltGr_focused w]
  rfl

instance : Recorder Bench where
  desktop := desktop
  works b := b.desktop.failing = false ∧ b.limit ≠ some 0
  isDown_eq _ _ := rfl
  isToggled_eq _ _ := rfl
  scanOf_eq _ _ _ := rfl
  keyAt_eq _ _ _ := rfl
  keys_sleep _ _ := rfl
  keys_wait _ _ := rfl
  keys_inject := by
    intro p q es n h
    obtain ⟨hr, rfl⟩ := Prod.mk.inj h
    obtain ⟨rfl, hd⟩ := inject_eq_ok (Prod.ext hr rfl)
    rw [← p.toList_accepted]
    exact (congrArg keys hd).trans (p.desktop.keys_take .input (p.accepted es))
  keys_inject_error := by
    intro p q es f h
    obtain ⟨hr, rfl⟩ := Prod.mk.inj h
    exact congrArg keys (inject_eq_error (Prod.ext hr rfl))
  keys_play := by
    intro p q es u h
    obtain ⟨hr, rfl⟩ := Prod.mk.inj h
    exact (congrArg keys (play_eq_ok (Prod.ext hr rfl))).trans (p.desktop.keys_take .play es)
  keys_play_error := by
    intro p q es f h
    obtain ⟨hr, rfl⟩ := Prod.mk.inj h
    exact congrArg keys (play_eq_error (Prod.ext hr rfl))
  works_sleep _ h := h
  works_wait _ h := h
  works_inject := by
    intro p e h
    have ha : p.accepted #[e] = #[e] := by
      unfold accepted
      rcases hl : p.limit with _ | n
      · rfl
      · have : n ≠ 0 := fun h0 => h.2 (by rw [hl, h0])
        obtain ⟨n, rfl⟩ := Nat.exists_eq_succ_of_ne_zero this
        simp
    change (p.desktop.inject (p.accepted #[e])).2.keys = _ ∧
      (p.desktop.inject (p.accepted #[e])).2.failing = false ∧ _
    rw [ha, inject_works h.1]
    exact ⟨p.desktop.keys_take .input #[e], (p.desktop.failing_take .input #[e]).trans h.1, h.2⟩

end Bench

end KeySynth
