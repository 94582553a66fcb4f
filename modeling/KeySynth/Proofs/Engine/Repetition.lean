import KeySynth.Desktop.Basic
import KeySynth.Proofs.Engine.Restore

/-!
A key that is pressed so many times.

A count may as well be written out: the text with the symbols in front of the key and the key itself
as often as it counts does the same, event by event.
-/

namespace KeySynth

open Modifier

/-- A function may be replaced by one that does the same wherever it comes to. -/
lemma repeat_congr {α : Type} {f g : α → α} {I : α → Prop} {a : α} (ha : I a)
    (hf : ∀ s, I s → I (f s)) (hfg : ∀ s, I s → f s = g s) (n : Nat) :
    Nat.repeat f n a = Nat.repeat g n a := by
  have h : I (Nat.repeat f n a) ∧ Nat.repeat f n a = Nat.repeat g n a := by
    induction n with
    | zero => exact ⟨ha, rfl⟩
    | succ n ih => exact ⟨hf _ ih.1, (hfg _ ih.1).trans (congrArg g ih.2)⟩
  exact h.2

/-- The modifiers that symbols ask for. -/
def Token.modsAsked (persistent mods : Mask) (ms : List Modifier) : Mask :=
  ms.foldl (fun mods m => modsAfter persistent mods (.modifier m)) mods

namespace Run

variable {P : Type} [Platform P] {r s : Run P} {target : KeyTarget}

/-- The target is a key of the keyboard, and the same one whatever has been sent. -/
def NamesKey (r : Run P) : KeyTarget → Prop
  | .named (.key vk sc) => vk = 0 → ∀ p : P,
      Platform.keyAt p sc r.layout = Platform.keyAt r.platform sc r.layout
  | .named (.mouse _) => False
  | .char _ => True

lemma NamesKey.resolved {vk : VirtualKey} {sc : ScanCode} (h : r.NamesKey (.named (.key vk sc)))
    (hs : s.still = r.still) : s.resolved vk sc = r.resolved vk sc := by
  unfold Run.resolved
  split_ifs with h0
  · rw [still_layout hs]
    exact h h0 s.platform
  · rfl

/-! ### Presses of a key -/

lemma turnModifier_press (r : Run P) (m : Modifier) (vk : VirtualKey) (sc : ScanCode) (n : Nat) :
    r.turnModifier m vk sc (.press n) = r.turnModifier m vk sc (.press 1) := by
  simp [turnModifier, KeyAction.motion]

/-- Presses leave the session alone. -/
lemma still_sendTarget (h : r.NamesKey target) (n : Nat) :
    (r.sendTarget target (.press n)).still = r.still := by
  match target with
  | .char c =>
    exact (Course.iterate (fun s => Course.sendChar (strokes_any (.char c)) s c) n).still
  | .named (.mouse b) => exact h.elim
  | .named (.key vk sc) =>
    cases hm : ofKey? (r.resolved vk sc) with
    | some m =>
      rw [r.sendTarget_modifier hm]
      exact (Course.iterate (fun s => .turnModifier (K := fun _ _ _ => True) trivial m) n).still
    | none =>
      rw [r.sendTarget_key hm]
      exact (Course.sendKey (K := fun _ _ _ => True) trivial r.keyMods n).still

/-- A key is pressed `n` times by being pressed once, `n` times over. -/
lemma sendTarget_press (h : r.NamesKey target) (n : Nat) :
    r.sendTarget target (.press n) = Nat.repeat (fun s => s.sendTarget target (.press 1)) n r := by
  match target with
  | .char c => rfl
  | .named (.mouse b) => exact h.elim
  | .named (.key vk sc) =>
    cases hm : ofKey? (r.resolved vk sc) with
    | some m =>
      rw [r.sendTarget_modifier hm]
      refine repeat_congr (I := fun s => s.still = r.still) rfl (fun s hs => ?_) (fun s hs => ?_) n
      · exact (Course.turnModifier (K := fun _ _ _ => True) trivial m).still.trans hs
      · rw [s.sendTarget_modifier (h.resolved hs ▸ hm), h.resolved hs]
        exact s.turnModifier_press m _ sc n
    | none =>
      rw [r.sendTarget_key hm]
      refine repeat_congr (I := fun s => s.still = r.still) rfl (fun s hs => ?_) (fun s hs => ?_) n
      · exact ((Course.refl s).sendKeyOnce (K := fun _ _ _ => True) trivial _).still.trans hs
      · rw [s.sendTarget_key (h.resolved hs ▸ hm), h.resolved hs, still_keyMods hs]
        rfl

/-! ### Symbols and a key -/

/-- A run whose next key has symbols in front of it. -/
def armed (r : Run P) (ms : List Modifier) : Run P :=
  { r with keyMods := Token.modsAsked r.ledger.persistent r.keyMods ms }

omit [Platform P] in
lemma clearMods_armed (h : r.keyMods = ∅) (ms : List Modifier) : (r.armed ms).clearMods = r := by
  rw [armed, clearMods, ← h]

omit [Platform P] in
/-- The symbols ask for the same again, once the key has used them up. -/
lemma armed_clearMods {ms : List Modifier} (hr : r.keyMods = ∅)
    (hs : s.still = (r.armed ms).still) : s.clearMods.armed ms = s := by
  have hmods : s.keyMods = Token.modsAsked s.ledger.persistent ∅ ms := by
    rw [still_keyMods hs, still_persistent hs, ← hr]
    rfl
  rw [armed, clearMods]
  dsimp only
  rw [← hmods]

lemma NamesKey.armed (h : r.NamesKey target) (ms : List Modifier) :
    (r.armed ms).NamesKey target :=
  match target, h with
  | .char _, h => h
  | .named (.key _ _), h => h
  | .named (.mouse _), h => h

lemma interpret_modifiers (h : r.fault = none) (ms : List Modifier) :
    r.interpret (ms.map .modifier) = r.armed ms := by
  induction ms generalizing r with
  | nil => rfl
  | cons m ms ih =>
    have hstep : r.step (.modifier m) = r.armed [m] := by
      have hact : r.step (.modifier m) = r.act (.modifier m) := if_neg (by simp [h])
      rw [hact]
      unfold act addMod armed Token.modsAsked
      simp only [List.foldl_cons, List.foldl_nil, Token.modsAfter]
      split_ifs <;> rfl
    change (r.step (.modifier m)).interpret (ms.map .modifier) = _
    rw [hstep, ih (by exact h)]
    rfl

lemma interpret_chord (h : r.fault = none) (ms : List Modifier) (action : KeyAction) :
    r.interpret (ms.map .modifier ++ [.key target action]) =
      ((r.armed ms).sendTarget target action).clearMods := by
  rw [interpret_append, interpret_modifiers h]
  exact if_neg (by simp [h, armed])

lemma interpret_replicate (r : Run P) (ts : List Token) (n : Nat) :
    r.interpret (List.replicate n ts).flatten = Nat.repeat (fun s => s.interpret ts) n r := by
  induction n with
  | zero => rfl
  | succ n ih =>
    rw [List.replicate_succ', List.flatten_append, interpret_append, ih]
    simp only [List.flatten_singleton]
    rfl

/-- Between two copies nothing is left of the symbols. -/
lemma repeat_chord (hmods : r.keyMods = ∅) (hfault : r.fault = none) (h : r.NamesKey target)
    (ms : List Modifier) (n : Nat) :
    Nat.repeat (fun s => s.interpret (ms.map .modifier ++ [.key target (.press 1)])) n r =
      ((r.armed ms).sendTarget target (.press n)).clearMods := by
  induction n with
  | zero => rw [sendTarget_press (h.armed ms)]; exact (clearMods_armed hmods ms).symm
  | succ n ih =>
    set s := (r.armed ms).sendTarget target (.press n) with hs
    have hstill : s.still = (r.armed ms).still := still_sendTarget (h.armed ms) n
    have hnone : s.clearMods.fault = none := (still_fault hstill).trans hfault
    calc
      _ = s.clearMods.interpret (ms.map .modifier ++ [.key target (.press 1)]) :=
        congrArg (fun s : Run P => s.interpret _) ih
      _ = (s.sendTarget target (.press 1)).clearMods := by
        rw [interpret_chord hnone, armed_clearMods hmods hstill]
      _ = ((r.armed ms).sendTarget target (.press (n + 1))).clearMods := by
        rw [sendTarget_press (h.armed ms) (n + 1), hs, sendTarget_press (h.armed ms) n]
        rfl

/-- **A repeat count is repetition**: a key that is to be pressed `n` times is sent as `n` copies of
the key with the symbols in front of it are. -/
theorem interpret_press (hmods : r.keyMods = ∅) (htarget : r.NamesKey target) (ms : List Modifier)
    (n : Nat) :
    r.interpret (ms.map .modifier ++ [.key target (.press n)]) =
      r.interpret (List.replicate n (ms.map .modifier ++ [.key target (.press 1)])).flatten := by
  cases hfault : r.fault with
  | some e =>
    have hsome : r.fault.isSome = true := by rw [hfault]; rfl
    rw [r.interpret_of_fault hsome, r.interpret_of_fault hsome]
  | none => rw [interpret_chord hfault, interpret_replicate, repeat_chord hmods hfault htarget]

/-- Control and the key of a scan code, three times. -/
theorem interpret_press_of_scanCode :
    let r := (Engine.new Desktop.new {}).start .event .notRaw none
    let chord (n : Nat) : List Token :=
      [lctrl].map .modifier ++ [.key (.named (.key 0 0x1E)) (.press n)]
    r.keyMods = ∅ ∧ r.NamesKey (.named (.key 0 0x1E)) ∧
      r.interpret (chord 3) = r.interpret (List.replicate 3 (chord 1)).flatten := by
  intro r chord
  have hmods : r.keyMods = ∅ := rfl
  have hkey : r.NamesKey (.named (.key 0 0x1E)) := fun _ _ => rfl
  exact ⟨hmods, hkey, interpret_press hmods hkey [lctrl] 3⟩

end Run

end KeySynth
