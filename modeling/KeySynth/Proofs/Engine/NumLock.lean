import Mathlib.Algebra.Group.Nat.Even
import KeySynth.Proofs.Engine.Lock

/-!
NumLock along a run.

Where a text names NumLock only to press it, NumLock is up between any two strokes and has gone
down as often as the text has pressed it, but for the pairs of taps round a character code. On the
way the left Alt key is down whenever the ledger says so, on a layout with AltGr or without.
-/

namespace KeySynth

open Modifier

/-- A key other than NumLock. If it is a modifier it has no scan code or one of the same side. -/
def OffNumLock (vk : VirtualKey) (sc : ScanCode) : Prop :=
  SidedKey vk sc ∧ (if vk = 0 then sc.key else vk) ≠ .numLock

namespace Token

/-- It names NumLock at most to press it. -/
def PressesNumLock : Token → Prop
  | .key (.named (.key vk sc)) a =>
    (if vk = 0 then sc.key else vk) = .numLock → ∃ n, a = .press n
  | _ => True

/-- How often it presses NumLock. -/
def numLocks : Token → Nat
  | .key (.named (.key vk sc)) (.press n) =>
    if (if vk = 0 then sc.key else vk) = .numLock then n else 0
  | _ => 0

/-- How often a text does. -/
def allNumLocks : List Token → Nat
  | [] => 0
  | t :: ts => t.numLocks + allNumLocks ts

lemma allNumLocks_snoc (ts : List Token) (t : Token) :
    allNumLocks (ts ++ [t]) = allNumLocks ts + t.numLocks := by
  induction ts with
  | nil => simp [allNumLocks]
  | cons u ts ih => simp [allNumLocks, ih, Nat.add_assoc]

end Token

lemma offNumLock_modifier (m : Modifier) : OffNumLock m.key m.scan := offKey_modifier rfl m

namespace Run

variable {d : Desktop} {n : Nat} {r s : Run Desktop}

/-- If the ledger holds the left Alt key it is down at the desk. -/
def HoldsAlt (d : Desktop) (r : Run Desktop) : Prop :=
  lalt ∈ r.ledger.logical → (r.desk d).isDown .lalt = true

/-- On the left Alt key the ledger and the desk agree whatever the layout. -/
lemma HoldsAlt.emit (h : HoldsAlt d r) {e : EventRecord} (he : e.Sided) :
    HoldsAlt d (r.emit e) := by
  intro hl
  have hphysical : ((r.desk d).apply (e.carried r.backend)).physical = (r.desk d).physical :=
    ((r.desk d).apply_eq _).2.1
  rw [desk_emit]
  refine (Desktop.isDown_key_iff (m := lalt)).mpr ?_
  rw [hphysical]
  cases e with
  | key k =>
    have hmoved : ∀ a, lalt ∈ Ledger.moved k.vk a ↔ ofKey? k.vk = some lalt := fun a => by simp
    rw [ledger_emit, Ledger.note, Ledger.logical_noteKey, Mask.mem_assign] at hl
    rw [Desktop.mem_down_apply_carried he]
    simp only [hmoved] at hl ⊢
    split_ifs at hl ⊢ with hk
    · exact .inl (by simpa using hl)
    · exact (Desktop.isDown_key_iff (m := lalt)).mp (h hl)
  | mouse m =>
    rw [ledger_emit] at hl
    have hkeys : ((r.desk d).apply ((EventRecord.mouse m).carried r.backend)).keys =
        (r.desk d).keys := Desktop.keys_apply_mouse _ m
    rw [Desktop.keys_down hkeys]
    exact (Desktop.isDown_key_iff (m := lalt)).mp (h hl)
  | delay ms =>
    rw [ledger_emit] at hl
    exact (Desktop.isDown_key_iff (m := lalt)).mp (h hl)

lemma HoldsAlt.pause (h : HoldsAlt d r) (p : Pause) : HoldsAlt d (r.pause p) := by
  unfold HoldsAlt
  rw [desk_pause, ledger_pause]
  exact h

lemma HoldsAlt.flows (h : HoldsAlt d r) (hf : Flows EventRecord.Sided r s) : HoldsAlt d s :=
  hf.invariant (I := HoldsAlt d) (fun _ _ he hs => hs.emit he) (fun _ p _ hs => hs.pause p) h

/-- NumLock is up and has gone down `n` times since `d`, and the left Alt key is down if the ledger
holds it. -/
structure NumLocked (d : Desktop) (n : Nat) (r : Run Desktop) : Prop where
  lock : Locked .numLock d (.numLock ∈ d.toggled ↔ Even n) r
  alt : HoldsAlt d r

namespace NumLocked

section

variable (h : NumLocked d n r)
include h

/-- One more press. -/
lemma press {vk : VirtualKey} {sc : ScanCode} (hk : (if vk = 0 then sc.key else vk) = .numLock) :
    NumLocked d (n + 1) (r.strike .downUp vk sc) where
  lock := (h.lock.press hk).congr (by
    rw [Nat.even_add_one]
    tauto)
  alt := by
    have hs : SidedKey vk sc := fun m hm => by
      rw [hk] at hm
      cases hm
    exact h.alt.flows ((Flows.refl r).strike _ fun t up => t.sided_keyEvent hs up _)

lemma pause (p : Pause) : NumLocked d n (r.pause p) := ⟨h.lock.pause p, h.alt.pause p⟩

/-- What is done with other keys leaves NumLock as it is. -/
lemma course (hc : Course (fun _ => OffNumLock) r s)
    (hm : OffNumLock r.maskKey.1 r.maskKey.2) : NumLocked d n s :=
  ⟨h.lock.course hc hm, h.alt.flows ((hc.mono And.left).flows (admits_sided hm.1) rfl)⟩

lemma conclude (t : Token) (said : Option (Modifier × Explicit)) :
    NumLocked d n (r.conclude t said) := by
  refine ⟨h.lock.conclude t said, ?_⟩
  obtain ⟨l, mode, base, mods, f, hl, he⟩ := r.conclude_eq t said
  rw [he]
  exact fun hm => h.alt (hl ▸ hm)

end

/-! ### Tokens -/

/-- A key that is NumLock is pressed as often as it is asked for. -/
lemma pressed {vk : VirtualKey} {sc : ScanCode} (hk : (if vk = 0 then sc.key else vk) = .numLock)
    (hm : OffNumLock r.maskKey.1 r.maskKey.2) (h : NumLocked d n r) (count : Nat) :
    NumLocked d (n + count) (r.act (.key (.named (.key vk sc)) (.press count))) := by
  have hres : r.resolved vk sc = .numLock := hk
  have hnone : ofKey? (r.resolved vk sc) = none := by
    rw [hres]
    rfl
  have hturns : ∀ count, (Nat.repeat (fun q => q.sendKeyOnce .numLock sc r.keyMods .downUp)
      count r).maskKey = r.maskKey ∧ NumLocked d (n + count)
        (Nat.repeat (fun q => q.sendKeyOnce .numLock sc r.keyMods .downUp) count r) := by
    intro count
    induction count with
    | zero => exact ⟨rfl, h⟩
    | succ count ih =>
      set q := Nat.repeat (fun q => q.sendKeyOnce .numLock sc r.keyMods .downUp) count r
      obtain ⟨hqm, hq⟩ := ih
      have hc : Course (fun _ _ _ => True) q (q.sendKeyOnce .numLock sc r.keyMods .downUp) :=
        (Course.refl q).sendKeyOnce trivial r.keyMods
      refine ⟨(still_maskKey hc.still).trans hqm, ?_⟩
      have hrec := (Course.refl (K := fun _ => OffNumLock) q).reconcile (r.keyMods ∪ q.kept) .both
      have hready := hq.course hrec (hqm ▸ hm)
      have hstruck : NumLocked d (n + count + 1)
          ((q.reconcile (r.keyMods ∪ q.kept) .both).strike .downUp .numLock sc) := hready.press rfl
      have hsm := (still_maskKey (still_strike _ .downUp .numLock sc)).trans
        ((still_maskKey hrec.still).trans hqm)
      exact hstruck.course (((Course.refl _).keyPause).dropAdded r.keyMods) (hsm ▸ hm)
  have hact : r.act (.key (.named (.key vk sc)) (.press count)) =
      (r.sendKey .numLock sc r.keyMods .downUp count).clearMods := by
    rw [act, r.sendTarget_key hnone, hres]
    rfl
  rw [hact]
  obtain ⟨hlock, halt⟩ := (hturns count).2
  exact ⟨⟨rfl, hlock.up, hlock.toggled⟩, halt⟩

lemma act (hm : OffNumLock r.maskKey.1 r.maskKey.2) (h : NumLocked d n r) {t : Token}
    (hs : t.Sided) (hp : t.PressesNumLock)
    (hd : ∀ ds, t = .asc ds → ∀ c ∈ ds.toList, c.isDigit = true) :
    NumLocked d (n + t.numLocks) (r.act t) := by
  by_cases hn : ∃ vk sc a, t = .key (.named (.key vk sc)) a ∧
      (if vk = 0 then sc.key else vk) = .numLock
  · obtain ⟨vk, sc, a, rfl, hk⟩ := hn
    obtain ⟨count, rfl⟩ := hp hk
    rw [Token.numLocks, if_pos hk]
    exact h.pressed hk hm count
  · have hne : ∀ vk sc a, t = .key (.named (.key vk sc)) a →
        (if vk = 0 then sc.key else vk) ≠ .numLock := fun vk sc a ht hk =>
      hn ⟨vk, sc, a, ht, hk⟩
    have hzero : t.numLocks = 0 := by
      unfold Token.numLocks
      split
      · exact if_neg (hne _ _ _ rfl)
      · rfl
    have hoff : t.Off .numLock := by
      unfold Token.Off
      split
      · exact ⟨hs, hne _ _ _ rfl⟩
      · trivial
    obtain ⟨q, hq, he⟩ := r.act_eq (strokes_off rfl hoff hd)
    rw [hzero, he]
    exact (h.course hq hm).conclude t _

/-- **NumLock has gone down as often as a text has pressed it.** -/
theorem interpret (hm : OffNumLock r.maskKey.1 r.maskKey.2) (h : NumLocked d n r)
    {ts : List Token} (hs : ∀ t ∈ ts, t.Sided) (hp : ∀ t ∈ ts, t.PressesNumLock)
    (hd : ∀ ds, .asc ds ∈ ts → ∀ c ∈ ds.toList, c.isDigit = true)
    (hf : (r.interpret ts).fault = none) :
    NumLocked d (n + Token.allNumLocks ts) (r.interpret ts) := by
  refine (r.interpret_induction (I := fun us q => us ⊆ ts → q.maskKey = r.maskKey ∧
    NumLocked d (n + Token.allNumLocks us) q) (fun _ => ⟨rfl, h⟩) (fun us t q ih hsub => ?_) hf
    (List.Subset.refl ts)).2
  have ht : t ∈ ts := hsub (by simp)
  obtain ⟨hqm, hq⟩ := ih fun u hu => hsub (by simp [hu])
  rw [Token.allNumLocks_snoc, ← Nat.add_assoc]
  exact ⟨(fixed_maskKey (q.fixed_act t)).trans hqm,
    hq.act (hqm ▸ hm) (hs t ht) (hp t ht) fun ds he => hd ds (he ▸ ht)⟩

end NumLocked

end Run

end KeySynth
