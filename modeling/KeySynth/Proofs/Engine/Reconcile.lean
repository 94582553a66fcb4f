import KeySynth.Proofs.Engine.Flow
import KeySynth.Proofs.Modifier.Plan

/-!
What bringing the modifiers to a set comes to in the ledger. A mask key that is no Win or Alt key
leaves no trace, so the ledger ends at the set that was asked for, settled; any other can only
leave modifiers out.
-/

namespace KeySynth

open Modifier

/-- The mask key is no Win or Alt key. -/
def PlainMask (maskKey : VirtualKey × ScanCode) : Prop :=
  maskKey.1 ≠ 0 ∧ ∀ m ∈ Mask.ofKey maskKey.1, m ∉ Mask.win ∪ Mask.alt

/-- The mask key that an engine begins with is one. -/
lemma plainMask_lcontrol : PlainMask (.lcontrol, VirtualKey.lcontrol.scan) := by
  refine ⟨by decide, fun m hm => ?_⟩
  cases Mask.mem_ofKey.mp hm
  decide

namespace Run

variable {P : Type} [Platform P] (r : Run P)

lemma logical_emitKey {vk : VirtualKey} (hvk : vk ≠ 0) (sc : ScanCode) (up : Bool) (info : Tag) :
    (r.emitKey vk sc up info).ledger.logical =
      r.ledger.logical.assign (Ledger.moved vk r.altgr) !up := by
  rw [emitKey_eq, ledger_emit]
  simp [keyEvent, hvk, Ledger.note]

lemma logical_emitKey_of_none {vk : VirtualKey} (hvk : vk ≠ 0) (hm : ofKey? vk = none)
    (sc : ScanCode) (up : Bool) (info : Tag) :
    (r.emitKey vk sc up info).ledger.logical = r.ledger.logical := by
  rw [logical_emitKey _ hvk, Ledger.moved_of_none hm, Mask.assign_empty]

lemma still_emitKey (vk : VirtualKey) (sc : ScanCode) (up : Bool) (info : Tag) :
    (r.emitKey vk sc up info).still = r.still := r.still_emit _

lemma still_strike (motion : KeyMotion) (vk : VirtualKey) (sc : ScanCode) :
    (r.strike motion vk sc).still = r.still :=
  ((Flows.refl r).strike (Q := fun _ => True) motion fun _ _ => trivial).still

lemma still_tapLock (vk : VirtualKey) : (r.tapLock vk).still = r.still :=
  ((Flows.refl r).tapLock (Q := fun _ => True) fun _ _ => trivial).still

lemma logical_emitModifier (m : Modifier) (up : Bool) :
    (r.emitModifier m up).ledger.logical = r.ledger.logical.assign (m.drags r.altgr) !up := by
  rw [emitModifier, logical_emitKey _ m.key_ne_zero, Ledger.moved_key]

/-- Playing orderly steps leaves no tap of the mask key open, so what each press, each release and
each whole tap keeps is kept. -/
theorem playing_induction {I : List Step → Run P → Prop} {altgr : Bool} (hnil : I [] r)
    (hpress : ∀ u s m, I u s → I (u ++ [Step.press m]) (s.emitModifier m false))
    (hrelease : ∀ u s m, I u s → I (u ++ [Step.release m]) (s.emitModifier m true))
    (htap : ∀ u s, I u s →
      I (u ++ [Step.maskDown] ++ [Step.maskUp]) (if s.maskHeld then s else s.maskDown.maskUp))
    (hround : ∀ u s m, m ∈ Mask.win ∪ Mask.alt → m.drags altgr = {m} → I u s →
      I (u ++ [Step.maskDown] ++ [Step.press m] ++ [Step.maskUp])
        (if s.maskHeld then s.emitModifier m false else (s.maskDown.emitModifier m false).maskUp))
    {u : List Step} (hu : Orderly altgr u) :
    ∃ s, u.foldl Playing.step ⟨r, false⟩ = ⟨s, false⟩ ∧ I u s := by
  induction hu with
  | nil => exact ⟨r, rfl, hnil⟩
  | press m _ ih =>
    obtain ⟨s, hs, hI⟩ := ih
    exact ⟨_, by rw [List.foldl_append, hs]; rfl, hpress _ s m hI⟩
  | release m _ ih =>
    obtain ⟨s, hs, hI⟩ := ih
    exact ⟨_, by rw [List.foldl_append, hs]; rfl, hrelease _ s m hI⟩
  | tap _ ih =>
    obtain ⟨s, hs, hI⟩ := ih
    refine ⟨_, ?_, htap _ s hI⟩
    rw [List.foldl_append, List.foldl_append, hs]
    by_cases hm : s.maskHeld = true <;> simp [Playing.step, hm]
  | tapRound m hm hd _ ih =>
    obtain ⟨s, hs, hI⟩ := ih
    refine ⟨_, ?_, hround _ s m hm hd hI⟩
    rw [List.foldl_append, List.foldl_append, List.foldl_append, hs]
    by_cases hh : s.maskHeld = true <;> simp [Playing.step, hh]

/-- What the keys that a plan moves, whole taps and the pause after a plan keep is kept by
reconciling. -/
theorem reconcile_of_moves {I : Run P → Prop} {C : Modifier → Prop} {desired : Mask} {w : Disguise}
    (hmoves : ∀ st ∈ (Plan.make desired r.ledger.logical r.altgr w).steps, ∀ m, st.Moves m → C m)
    (hmodifier : ∀ s m up, C m → I s → I (s.emitModifier m up))
    (htap : ∀ s, ¬s.maskHeld = true → I s → I s.maskDown.maskUp)
    (hround : ∀ s m, C m → ¬s.maskHeld = true → I s →
      I (s.maskDown.emitModifier m false).maskUp)
    (hpause : ∀ s, I s → I s.pressPause) (hr : I r) : I (r.reconcile desired w) := by
  have key := r.playing_induction (I := fun u s => (∀ st ∈ u, ∀ m, st.Moves m → C m) → I s)
    (fun _ => hr) ?press ?release ?tap ?round
    (Plan.orderly_make desired r.ledger.logical r.altgr w)
  · obtain ⟨s, hs, hI⟩ := key
    have hplayed := hI hmoves
    unfold reconcile playSteps
    dsimp only
    rw [hs]
    split_ifs
    · exact hr
    · exact hplayed
    · exact hpause s hplayed
  case press =>
    intro u s m ih hu
    have hs := ih fun st hst => hu st (by simp [hst])
    exact hmodifier s m _ (hu (.press m) (by simp) m (.inl rfl)) hs
  case release =>
    intro u s m ih hu
    have hs := ih fun st hst => hu st (by simp [hst])
    exact hmodifier s m _ (hu (.release m) (by simp) m (.inr rfl)) hs
  case tap =>
    intro u s ih hu
    have hs := ih fun st hst => hu st (by simp [hst])
    split_ifs with hh
    · exact hs
    · exact htap s hh hs
  case round =>
    intro u s m _ _ ih hu
    have hm := hu (.press m) (by simp) m (.inl rfl)
    have hs := ih fun st hst => hu st (by simp [hst])
    split_ifs with hh
    · exact hmodifier s m _ hm hs
    · exact hround s m hm hh hs

/-- What each modifier's key, whole taps and the pause after a plan keep is kept by reconciling. -/
theorem reconcile_invariant {I : Run P → Prop}
    (hmodifier : ∀ s m up, I s → I (s.emitModifier m up))
    (htap : ∀ s, I s → I s.maskDown.maskUp)
    (hround : ∀ s m, I s → I (s.maskDown.emitModifier m false).maskUp)
    (hpause : ∀ s, I s → I s.pressPause) (hr : I r) (desired : Mask) (w : Disguise) :
    I (r.reconcile desired w) :=
  r.reconcile_of_moves (C := fun _ => True) (fun _ _ _ _ => trivial)
    (fun s m up _ => hmodifier s m up) (fun s _ => htap s) (fun s m _ _ => hround s m) hpause hr

/-! ### What a plan leaves down -/

/-- A tap outside of a press, unless it is left out, can only let go of what the mask key moves. -/
lemma mem_tap {s : Run P} (h0 : s.maskKey.1 ≠ 0) {n : Modifier} :
    n ∈ s.maskDown.maskUp.ledger.logical ↔
      n ∈ s.ledger.logical ∧ n ∉ Ledger.moved s.maskKey.1 s.altgr := by
  have hd : s.maskDown.still = s.still := s.still_emitKey _ _ _ _
  rw [maskUp, still_maskKey hd, logical_emitKey _ h0, still_altgr hd, maskDown,
    logical_emitKey _ h0]
  by_cases hn : n ∈ Ledger.moved s.maskKey.1 s.altgr <;> simp only [Mask.mem_assign, hn] <;> simp

lemma mem_tapRound {s : Run P} (h0 : s.maskKey.1 ≠ 0) {m n : Modifier} :
    n ∈ (s.maskDown.emitModifier m false).maskUp.ledger.logical ↔
      (n ∈ s.ledger.logical ∨ n ∈ m.drags s.altgr) ∧ n ∉ Ledger.moved s.maskKey.1 s.altgr := by
  have hd : s.maskDown.still = s.still := s.still_emitKey _ _ _ _
  have hm : (s.maskDown.emitModifier m false).still = s.still := (still_emitKey _ _ _ _ _).trans hd
  rw [maskUp, still_maskKey hm, logical_emitKey _ h0, still_altgr hm, logical_emitModifier,
    still_altgr hd, maskDown, logical_emitKey _ h0]
  by_cases hn : n ∈ Ledger.moved s.maskKey.1 s.altgr <;> simp only [Mask.mem_assign, hn] <;>
    by_cases hg : n ∈ m.drags s.altgr <;> simp [hg]

omit [Platform P] in
/-- A plain mask key moves just its own modifier, and that one is up when a tap begins. -/
lemma not_mem_moved {s : Run P} (hp : PlainMask s.maskKey) (hh : ¬s.maskHeld = true) {n : Modifier}
    (hn : n ∈ s.ledger.logical ∨ n ∈ Mask.win ∪ Mask.alt) :
    n ∉ Ledger.moved s.maskKey.1 s.altgr := by
  have hk : s.maskKey.1 ≠ .ralt := by
    intro hk
    refine hp.2 ralt ?_ (by simp)
    rw [hk]
    decide
  have hup := Mask.meets_eq_false.mp (Bool.not_eq_true _ ▸ hh : s.maskHeld = false)
  intro hmv
  rw [Ledger.mem_moved] at hmv
  rcases hmv with hv | ⟨_, hv, _⟩
  · rcases hn with hn | hn
    · exact hup n hn (Mask.mem_ofKey.mpr hv)
    · exact hp.2 n (Mask.mem_ofKey.mpr hv) hn
  · exact hk hv

/-- What holds after the steps `u`: no more is down than they say, and exactly that if the mask key
is plain. -/
structure Leaves (r : Run P) (u : List Step) (s : Run P) : Prop where
  still : s.still = r.still
  subset : s.ledger.logical ⊆ replay r.altgr r.ledger.logical u
  eq : PlainMask r.maskKey → s.ledger.logical = replay r.altgr r.ledger.logical u

namespace Leaves

variable {r s : Run P} {u : List Step} (h : Leaves r u s)
include h

omit [Platform P] in
lemma congr {v : List Step}
    (hv : replay r.altgr r.ledger.logical v = replay r.altgr r.ledger.logical u) :
    Leaves r v s :=
  ⟨h.still, by rw [hv]; exact h.subset, fun hp => by rw [hv]; exact h.eq hp⟩

lemma press (m : Modifier) : Leaves r (u ++ [Step.press m]) (s.emitModifier m false) where
  still := (still_emitKey _ _ _ _ _).trans h.still
  subset := by
    rw [logical_emitModifier, still_altgr h.still, replay_snoc, Mask.subset_iff]
    intro n hn
    simp only [Mask.mem_assign, Step.apply, Mask.mem_union] at hn ⊢
    split_ifs at hn with hg
    · exact .inr hg
    · exact .inl (Mask.subset_iff.mp h.subset n hn)
  eq hp := by
    rw [logical_emitModifier, still_altgr h.still, replay_snoc, h.eq hp]
    rfl

lemma release (m : Modifier) : Leaves r (u ++ [Step.release m]) (s.emitModifier m true) where
  still := (still_emitKey _ _ _ _ _).trans h.still
  subset := by
    rw [logical_emitModifier, still_altgr h.still, replay_snoc, Mask.subset_iff]
    intro n hn
    simp only [Mask.mem_assign, Step.apply, Mask.mem_sdiff] at hn ⊢
    split_ifs at hn with hg
    · cases hn
    · exact ⟨Mask.subset_iff.mp h.subset n hn, hg⟩
  eq hp := by
    rw [logical_emitModifier, still_altgr h.still, replay_snoc, h.eq hp]
    rfl

variable (h0 : r.maskKey.1 ≠ 0)
include h0

lemma tap (hh : ¬s.maskHeld = true) :
    Leaves r (u ++ [Step.maskDown] ++ [Step.maskUp]) s.maskDown.maskUp where
  still := (still_emitKey _ _ _ _ _).trans ((still_emitKey _ _ _ _ _).trans h.still)
  subset := by
    rw [replay_snoc, replay_snoc]
    refine Mask.subset_trans (Mask.subset_iff.mpr fun n hn => ?_) h.subset
    exact ((mem_tap (still_maskKey h.still ▸ h0)).mp hn).1
  eq hp := by
    rw [replay_snoc, replay_snoc, Step.apply, Step.apply, ← h.eq hp]
    refine Mask.ext fun n => (mem_tap (still_maskKey h.still ▸ h0)).trans ?_
    refine ⟨And.left, fun hn => ⟨hn, ?_⟩⟩
    exact not_mem_moved (still_maskKey h.still ▸ hp) hh (.inl hn)

lemma tapRound {m : Modifier} (hm : m ∈ Mask.win ∪ Mask.alt) (hd : m.drags r.altgr = {m})
    (hh : ¬s.maskHeld = true) :
    Leaves r (u ++ [Step.maskDown] ++ [Step.press m] ++ [Step.maskUp])
      (s.maskDown.emitModifier m false).maskUp := by
  have hds : m.drags s.altgr = {m} := by rw [still_altgr h.still, hd]
  have h0s : s.maskKey.1 ≠ 0 := still_maskKey h.still ▸ h0
  refine ⟨(still_emitKey _ _ _ _ _).trans ((still_emitKey _ _ _ _ _).trans
    ((still_emitKey _ _ _ _ _).trans h.still)), ?_, fun hp => ?_⟩
  · rw [replay_snoc, replay_snoc, replay_snoc, Mask.subset_iff]
    intro n hn
    rw [mem_tapRound h0s, hds] at hn
    simp only [Step.apply, hd, Mask.mem_union]
    exact hn.1.imp_left (Mask.subset_iff.mp h.subset n)
  · rw [replay_snoc, replay_snoc, replay_snoc]
    simp only [Step.apply, hd, ← h.eq hp]
    refine Mask.ext fun n => (mem_tapRound h0s).trans ?_
    rw [hds, Mask.mem_union]
    refine ⟨And.left, fun hn => ⟨hn, not_mem_moved (still_maskKey h.still ▸ hp) hh ?_⟩⟩
    exact hn.imp_right fun hnm => by rwa [Mask.mem_singleton.mp hnm]

end Leaves

/-- Orderly steps leave no more down than they say, and exactly that if the mask key is plain. -/
theorem leaves_playSteps (h0 : r.maskKey.1 ≠ 0) {u : List Step} (hu : Orderly r.altgr u) :
    Leaves r u (r.playSteps u) := by
  have key := r.playing_induction (I := Leaves r) ⟨rfl, Mask.subset_refl _, fun _ => rfl⟩
    (fun _ _ m h => h.press m) (fun _ _ m h => h.release m) ?tap ?round hu
  · obtain ⟨s, hs, h⟩ := key
    rwa [playSteps, hs]
  case tap =>
    intro u s h
    split_ifs with hh
    · exact h.congr (by rw [replay_snoc, replay_snoc]; rfl)
    · exact h.tap h0 hh
  case round =>
    intro u s m hm hd h
    split_ifs with hh
    · exact (h.press m).congr (by simp only [replay_snoc, Step.apply])
    · exact h.tapRound h0 hm hd hh

lemma ledger_reconcile (desired : Mask) (w : Disguise) :
    (r.reconcile desired w).ledger =
      (r.playSteps (Plan.make desired r.ledger.logical r.altgr w).steps).ledger := by
  unfold reconcile
  dsimp only
  split_ifs with he hi
  · rw [Plan.isEmpty, List.isEmpty_iff] at he
    rw [he]
    rfl
  · rfl
  · rw [pressPause, ledger_pause]

/-- **The modifiers get where they are wanted**, whatever was down, if the mask key is plain. -/
theorem logical_reconcile (hp : PlainMask r.maskKey) (desired : Mask) (w : Disguise) :
    (r.reconcile desired w).ledger.logical = desired.settled r.altgr := by
  rw [ledger_reconcile]
  have hl := r.leaves_playSteps hp.1 (Plan.orderly_make desired r.ledger.logical r.altgr w)
  exact (hl.eq hp).trans (Plan.replay_make desired r.ledger.logical r.altgr w)

/-- With any mask key no more is down than is wanted. -/
theorem logical_reconcile_subset (h0 : r.maskKey.1 ≠ 0) (desired : Mask) (w : Disguise) :
    (r.reconcile desired w).ledger.logical ⊆ desired.settled r.altgr := by
  rw [ledger_reconcile, ← Plan.replay_make desired r.ledger.logical r.altgr w]
  exact (r.leaves_playSteps h0 (Plan.orderly_make desired r.ledger.logical r.altgr w)).subset

/-! ### What a send puts back -/

/-- A lock is no modifier. -/
lemma logical_tapLock {vk : VirtualKey} (h : vk.isLock = true) :
    (r.tapLock vk).ledger.logical = r.ledger.logical := by
  have hk : vk ≠ 0 ∧ ofKey? vk = none := by
    simp only [VirtualKey.isLock, Bool.or_eq_true, beq_iff_eq] at h
    rcases h with (rfl | rfl) | rfl <;> decide
  rw [tapLock, keyPause, ledger_pause, strike, logical_emitKey_of_none _ hk.1 hk.2, pressPause,
    ledger_pause, logical_emitKey_of_none _ hk.1 hk.2]

/-- What is down at the end of a send if the mask key is plain. -/
theorem logical_putBack (hp : PlainMask r.maskKey) (capsLock : Bool) :
    (r.putBack capsLock).ledger.logical = r.restored.settled r.altgr := by
  have h := r.logical_reconcile hp r.restored .both
  unfold putBack
  split_ifs
  · exact (logical_tapLock _ rfl).trans h
  · exact h

/-- With any mask key no more is down. -/
theorem logical_putBack_subset (h0 : r.maskKey.1 ≠ 0) (capsLock : Bool) :
    (r.putBack capsLock).ledger.logical ⊆ r.restored.settled r.altgr := by
  have h := r.logical_reconcile_subset h0 r.restored .both
  unfold putBack
  split_ifs
  · rwa [logical_tapLock _ rfl]
  · exact h

end Run

end KeySynth
