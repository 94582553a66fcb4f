import KeySynth.Desktop.Basic
import KeySynth.Proofs.Engine.Reconcile
import KeySynth.Proofs.Modifier.Spoil

/-!
Where reconciling leaves the modifiers with any mask key: where they are wanted, but for what a
tap of the mask key itself lets go of.
-/

namespace KeySynth

open Modifier

namespace Run

variable {P : Type} [Platform P] {r : Run P}

/-- The plan under way has come to where `Hands` has, in the ledger of a run that began as `r`. -/
structure Playing.Shows (r : Run P) (p : Playing P) (h : Hands) : Prop where
  still : p.run.still = r.still
  held : p.run.ledger.logical = h.held
  skipped : p.skipped = h.skipped

lemma Playing.Shows.step {p : Playing P} {h : Hands} (hp : p.Shows r h) (h0 : r.maskKey.1 ≠ 0)
    (s : Step) : (p.step s).Shows r (h.step r.altgr r.maskKey.1 s) := by
  obtain ⟨q, b⟩ := p
  obtain ⟨hs, hl, hb⟩ := hp
  have ha : q.altgr = r.altgr := still_altgr hs
  have hk : q.maskKey = r.maskKey := still_maskKey hs
  have hstill : ∀ vk sc up info, (q.emitKey vk sc up info).still = r.still := fun vk sc up info =>
    (q.still_emitKey vk sc up info).trans hs
  cases s with
  | press m =>
    refine ⟨hstill _ _ _ _, ?_, hb⟩
    show (q.emitModifier m false).ledger.logical = _
    rw [logical_emitModifier, ha, hl]
    rfl
  | release m =>
    refine ⟨hstill _ _ _ _, ?_, hb⟩
    show (q.emitModifier m true).ledger.logical = _
    rw [logical_emitModifier, ha, hl]
    rfl
  | maskDown =>
    have hm : q.maskHeld = h.held.meets (Mask.ofKey r.maskKey.1) := by rw [maskHeld, hl, hk]
    simp only [Playing.step, Hands.step, hm]
    split_ifs
    · exact ⟨hs, hl, rfl⟩
    · refine ⟨hstill _ _ _ _, ?_, rfl⟩
      rw [maskDown, logical_emitKey _ (hk ▸ h0), ha, hl, hk]
      rfl
  | maskUp =>
    simp only [Playing.step, Hands.step, ← hb]
    split_ifs
    · exact ⟨hs, hl, rfl⟩
    · refine ⟨hstill _ _ _ _, ?_, rfl⟩
      rw [maskUp, logical_emitKey _ (hk ▸ h0), ha, hl, hk]
      rfl

lemma logical_playSteps (h0 : r.maskKey.1 ≠ 0) (u : List Step) :
    (r.playSteps u).ledger.logical =
      (Hands.run r.altgr r.maskKey.1 ⟨r.ledger.logical, false⟩ u).held := by
  suffices ∀ (p : Playing P) (h : Hands), p.Shows r h →
      (u.foldl Playing.step p).Shows r (Hands.run r.altgr r.maskKey.1 h u) from
    (this ⟨r, false⟩ ⟨r.ledger.logical, false⟩ ⟨rfl, rfl, rfl⟩).held
  induction u with
  | nil => exact fun _ _ h => h
  | cons s u ih => exact fun p h hp => ih _ _ (hp.step h0 s)

/-- Where reconciling leaves each modifier. -/
lemma mem_logical_reconcile (h0 : r.maskKey.1 ≠ 0) (desired : Mask) (w : Disguise) (m : Modifier) :
    m ∈ (r.reconcile desired w).ledger.logical ↔ m ∈ desired.settled r.altgr ∧
      ¬Plan.Change.Spoils ⟨r.ledger.logical, desired.settled r.altgr, r.altgr, w⟩
        r.maskKey.1 m := by
  rw [ledger_reconcile, logical_playSteps h0]
  exact Plan.mem_run_make desired r.ledger.logical r.altgr w r.maskKey.1 m

/-- Nothing is done where there is nothing to change. -/
lemma reconcile_of_settled {desired : Mask} (h : desired.settled r.altgr = r.ledger.logical)
    (w : Disguise) : r.reconcile desired w = r := by
  have hp : Plan.make desired r.ledger.logical r.altgr w = ⟨[], r.ledger.logical⟩ := if_pos h
  rw [reconcile, hp]
  rfl

end Run

namespace Engine

variable {P : Type}

lemma maskKey_ne_zero {e e' : Engine P} {name : String} (h : e.setMaskKey name = .ok e') :
    e'.maskKey.1 ≠ 0 := by
  unfold setMaskKey at h
  split at h
  · split_ifs at h with h0 <;> cases h <;> exact h0
  · cases h

/-- **With any mask key that an engine accepts the modifiers get where they are wanted**, but for
those that a tap of the mask key takes away again, and nothing is sent where they already are
there. -/
theorem mem_reconcile [Platform P] {e e' : Engine P} {name : String}
    (hname : e.setMaskKey name = .ok e') {r : Run P} (hr : r.maskKey = e'.maskKey)
    (desired : Mask) (w : Disguise) :
    let c : Plan.Change := ⟨r.ledger.logical, desired.settled r.altgr, r.altgr, w⟩
    (∀ m, m ∈ (r.reconcile desired w).ledger.logical ↔
      m ∈ desired.settled r.altgr ∧ ¬c.Spoils r.maskKey.1 m) ∧
    (r.ledger.logical = desired.settled r.altgr → r.reconcile desired w = r) := by
  have h0 : r.maskKey.1 ≠ 0 := hr ▸ maskKey_ne_zero hname
  exact ⟨fun m => Run.mem_logical_reconcile h0 desired w m,
    fun h => Run.reconcile_of_settled h.symm w⟩

lemma setMaskKey_lwin (e : Engine P) :
    e.setMaskKey "LWin" = .ok { e with maskKey := (.lwin, VirtualKey.lwin.scan) } := by
  have h : NamedKey.ofName? "LWin".toList = some (.key .lwin VirtualKey.lwin.scan) := by
    decide +kernel
  simp only [setMaskKey, h]
  rfl

/-- Of Win and Shift only Shift is left. -/
theorem mem_reconcile_of_lwin :
    ∃ e, (Engine.new Desktop.new {}).setMaskKey "LWin" = .ok e ∧
      ∀ m, m ∈ ((e.start .event .notRaw none).reconcile ({lwin} ∪ {lshift}) .both).ledger.logical ↔
        m = lshift := by
  refine ⟨_, setMaskKey_lwin _, fun m => ?_⟩
  rw [(mem_reconcile (setMaskKey_lwin (Engine.new Desktop.new {})) rfl _ .both).1 m]
  cases m <;> decide

/-- A mask key that is a Win key can leave out what it is to disguise. -/
theorem reconcile_spoiled :
    ¬∀ (e e' : Engine Desktop) (name : String), e.setMaskKey name = .ok e' →
      ∀ r : Run Desktop, r.maskKey = e'.maskKey → ∀ (desired : Mask) (w : Disguise),
        (r.reconcile desired w).ledger.logical = desired.settled r.altgr := by
  intro h
  let e := Engine.new Desktop.new {}
  have hr := h e _ _ (setMaskKey_lwin e)
    ({ e with maskKey := (.lwin, VirtualKey.lwin.scan) }.start .event .notRaw none) rfl {lwin} .both
  exact absurd hr (by decide +kernel)

end Engine

end KeySynth
