import Mathlib.Data.List.Induction
import KeySynth.Proofs.Modifier.Plan

/-!
How few steps a plan takes.

A plan presses what is up and lets go of what is down, and each key moves once if it has to and
otherwise not at all. With AltGr this leaves out the Ctrl keys: the right Alt key takes the left
one along and goes down with both up, so either may have to move twice.
-/

namespace KeySynth

open Modifier

/-- The step is one of the mask key. -/
def Step.isMask : Step → Bool
  | press _ | release _ => false
  | maskDown | maskUp => true

/-- Orderly steps tap the mask key, one tap after the other. -/
lemma Orderly.filter_isMask {altgr : Bool} {u : List Step} (h : Orderly altgr u) :
    ∃ n, u.filter Step.isMask = (List.replicate n [Step.maskDown, Step.maskUp]).flatten := by
  have hsnoc : ∀ n, (List.replicate (n + 1) [Step.maskDown, Step.maskUp]).flatten =
      (List.replicate n [Step.maskDown, Step.maskUp]).flatten ++ [Step.maskDown, Step.maskUp] :=
    fun n => by rw [List.replicate_succ', List.flatten_append]; rfl
  induction h with
  | nil => exact ⟨0, rfl⟩
  | press m _ ih | release m _ ih =>
    obtain ⟨n, hn⟩ := ih
    exact ⟨n, by simp [Step.isMask, hn]⟩
  | tap _ ih | tapRound _ _ _ _ ih =>
    obtain ⟨n, hn⟩ := ih
    refine ⟨n + 1, ?_⟩
    simp only [List.filter_append, hn, hsnoc, List.append_assoc]
    rfl

namespace Plan

/-- AltGr has no part in what `m` does. -/
def Change.Apart (c : Change) (m : Modifier) : Prop := c.altgr = true → m ∉ Mask.ctrl

namespace Change.Apart

variable {c : Change} {m : Modifier} (h : c.Apart m)
include h

lemma altgr (hm : m ∈ Mask.ctrl) : c.altgr = false := Bool.eq_false_iff.mpr fun ha => h ha hm

lemma ne_lctrl (ha : c.altgr = true) : m ≠ lctrl := by
  rintro rfl
  exact h ha (by simp [Mask.ctrl])

lemma mem_drags_iff {n : Modifier} : m ∈ n.drags c.altgr ↔ m = n := by
  rw [mem_drags, or_iff_left_iff_imp]
  exact fun ⟨ha, _, hm⟩ => absurd hm (h.ne_lctrl ha)

lemma mem_settled (s : Mask) : m ∈ s.settled c.altgr ↔ m ∈ s := by
  rw [Mask.mem_settled, or_iff_left_iff_imp]
  exact fun ⟨ha, _, hm⟩ => absurd hm (h.ne_lctrl ha)

/-- A step of another key leaves `m` where it is. -/
lemma mem_apply {s : Step} (hs : ¬s.Moves m) (held : Mask) :
    m ∈ s.apply c.altgr held ↔ m ∈ held := by
  have hne : ∀ n, (s = .press n ∨ s = .release n) → m ≠ n := fun n hn he => hs (he ▸ hn)
  cases s with
  | press n => simp [Step.apply, h.mem_drags_iff, hne n (.inl rfl), -mem_drags]
  | release n => simp [Step.apply, h.mem_drags_iff, hne n (.inr rfl), -mem_drags]
  | maskDown | maskUp => rfl

end Change.Apart

/-- The step has something to do after the steps `u`, and has to be taken. -/
def Change.Warrants (c : Change) (u : List Step) : Step → Prop
  | .press m => m ∉ replay c.altgr c.old u ∧ (c.Apart m → c.presses m)
  | .release m => m ∈ replay c.altgr c.old u ∧ (c.Apart m → c.releases m)
  | .maskDown | .maskUp => True

/-- Each step is warranted after those before it. -/
def Thrifty (c : Change) (u : List Step) : Prop :=
  ∀ v s w, u = v ++ s :: w → c.Warrants v s

variable {c : Change} {u : List Step}

lemma thrifty_nil : Thrifty c [] := fun v _ _ h => by simp at h

lemma thrifty_snoc {s : Step} : Thrifty c (u ++ [s]) ↔ Thrifty c u ∧ c.Warrants u s := by
  refine ⟨fun h => ⟨fun v t w hu => h v t (w ++ [s]) (by simp [hu]), h u s [] rfl⟩, ?_⟩
  rintro ⟨hu, hs⟩ v t w heq
  rcases List.eq_nil_or_concat w with rfl | ⟨w, x, rfl⟩
  · obtain ⟨rfl, ht⟩ := List.append_inj' heq rfl
    cases ht
    exact hs
  · have heq' : u ++ [s] = (v ++ t :: w) ++ [x] := by simpa using heq
    exact hu v t w (List.append_inj' heq' rfl).1

/-- A key that AltGr has no part in has moved once if it is not where it was, and else never. -/
lemma Thrifty.countP (h : Thrifty c u) {m : Modifier} (hm : c.Apart m) :
    u.countP (·.Moves m) = if m ∈ replay c.altgr c.old u ↔ m ∈ c.old then 0 else 1 := by
  induction u using List.reverseRecOn with
  | nil => simp [replay]
  | append_singleton u s ih =>
    obtain ⟨hu, hs⟩ := thrifty_snoc.mp h
    rw [List.countP_append, ih hu, replay_snoc]
    by_cases hmv : s.Moves m
    · rcases hmv with rfl | rfl
      · obtain ⟨hup, hp⟩ := hs
        have hold := (hp hm).1
        simp [Step.apply, hm.mem_drags_iff, hup, hold, Step.Moves]
      · obtain ⟨hdown, hr⟩ := hs
        have hold := (hr hm).1
        simp [Step.apply, hm.mem_drags_iff, hdown, hold, Step.Moves]
    · simp [hm.mem_apply hmv, hmv]

namespace Draft

variable {d : Draft}

/-- The draft is sound and its steps are warranted. -/
structure Sparing (c : Change) (d : Draft) : Prop extends Sound c d where
  thrifty : Thrifty c d.steps

namespace Sparing

lemma nil : Sparing c ⟨[], c.old⟩ := ⟨sound_nil, thrifty_nil⟩

variable (h : Sparing c d) {m : Modifier}
include h

lemma press (hup : m ∉ d.held) (hm : c.Apart m → c.presses m) :
    Sparing c (d.add c (.press m)) :=
  ⟨h.toSound.press m, thrifty_snoc.mpr ⟨h.thrifty, by rwa [h.held], hm⟩⟩

lemma release (hdown : m ∈ d.held) (hm : c.Apart m → c.releases m) :
    Sparing c (d.add c (.release m)) :=
  ⟨h.toSound.release m, thrifty_snoc.mpr ⟨h.thrifty, by rwa [h.held], hm⟩⟩

lemma releaseIf {p : Prop} [Decidable p] (hdown : p → m ∈ d.held)
    (hm : p → c.Apart m → c.releases m) : Sparing c (d.releaseIf c p m) := by
  unfold Draft.releaseIf
  split_ifs with hp
  · exact h.release (hdown hp) (hm hp)
  · exact h

lemma tapIf (b : Bool) : Sparing c (d.tapIf c b) := by
  refine ⟨h.toSound.tapIf b, ?_⟩
  cases b
  · exact h.thrifty
  · exact thrifty_snoc.mpr ⟨thrifty_snoc.mpr ⟨h.thrifty, trivial⟩, trivial⟩

lemma pressWithin (b : Bool) (hm : m ∈ Mask.win ∪ Mask.alt) (hd : m.drags c.altgr = {m})
    (hup : m ∉ d.held) (hp : c.presses m) : Sparing c (d.pressWithin c b m) := by
  refine ⟨h.toSound.pressWithin b hm hd, ?_⟩
  cases b
  · exact (h.press hup fun _ => hp).thrifty
  · have hdown : Thrifty c (d.steps ++ [.maskDown]) := thrifty_snoc.mpr ⟨h.thrifty, trivial⟩
    have hpress : c.Warrants (d.steps ++ [.maskDown]) (.press m) := by
      refine ⟨?_, fun _ => hp⟩
      rw [replay_snoc, h.held]
      exact hup
    exact thrifty_snoc.mpr ⟨thrifty_snoc.mpr ⟨hdown, hpress⟩, trivial⟩

/-! ### The keys in their turns -/

/-- When its turn comes the key has not moved. -/
lemma turn (f u w : Bool) (hm : m ∈ Mask.win ∪ Mask.alt) (hd : m.drags c.altgr = {m})
    (hheld : m ∈ d.held ↔ m ∈ c.old) : Sparing c (d.turn c f u w m) := by
  unfold Draft.turn
  split_ifs with hr _ hp
  · exact h
  · refine (h.tapIf _).release ?_ fun _ => hr
    rw [tapIf_held]
    exact hheld.mpr hr.1
  · exact h.pressWithin _ hm hd (fun hdown => hp.1 (hheld.mp hdown)) hp
  · exact h

lemma winKey (hm : m ∈ Mask.win) (hheld : m ∈ d.held ↔ m ∈ c.old) : Sparing c (d.winKey c m) :=
  h.turn _ _ _ (by simp_all) (drags_win _ hm) hheld

lemma altKey (hm : m ∈ Mask.alt) (hd : m.drags c.altgr = {m}) (hheld : m ∈ d.held ↔ m ∈ c.old) :
    Sparing c (d.altKey c m) :=
  h.turn _ _ _ (by simp_all) hd hheld

lemma rightAltKey (hheld : ralt ∈ d.held ↔ ralt ∈ c.old) : Sparing c (d.rightAltKey c) := by
  unfold Draft.rightAltKey Draft.altGrKey
  split_ifs with ha hr hp
  · exact h.release (hheld.mpr hr.1) fun _ => hr
  · have hapart : ∀ n ∈ Mask.ctrl, ¬c.Apart n := fun n hn hc => hc ha hn
    have hl : Sparing c (d.releaseIf c (lctrl ∈ d.held) lctrl) :=
      h.releaseIf id fun _ hc => absurd hc (hapart _ (by simp [Mask.ctrl]))
    refine (hl.releaseIf id fun _ hc => absurd hc (hapart _ (by simp [Mask.ctrl]))).press ?_
      fun _ => hp
    rw [mem_releaseIf, mem_releaseIf, hheld]
    exact fun hdown => hp.1 hdown.1.1
  · exact h
  · exact h.altKey (by simp) (drags_self fun hc => ha hc.1) hheld

lemma ctrlKey (hheld : c.Apart m → (m ∈ d.held ↔ m ∈ c.old)) : Sparing c (d.ctrlKey c m) := by
  unfold Draft.ctrlKey
  split_ifs with hr hp
  · exact h.release hr.1 fun hm => ⟨(hheld hm).mp hr.1, hr.2⟩
  · exact h.press hp.1 fun hm => ⟨fun hold => hp.1 ((hheld hm).mpr hold), hp.2⟩
  · exact h

/-- A Shift key may have been let go of early. -/
lemma shiftKey (hheld : m ∈ d.held → m ∈ c.old) : Sparing c (d.shiftKey c m) := by
  unfold Draft.shiftKey
  split_ifs with hr hp
  · exact h.release hr.1 fun _ => ⟨hheld hr.1, hr.2⟩
  · exact h.press (fun hdown => hp.1 (hheld hdown)) fun _ => hp
  · exact h

/-! ### What is let go of at another time -/

lemma earlyShift (hheld : m ∈ c.old → m ∈ d.held) : Sparing c (d.earlyShift c m) :=
  h.releaseIf (fun hp => hheld hp.2.1) fun hp _ => hp.2

lemma lateWin (hheld : c.defersWin = true → m ∈ c.old → m ∈ d.held) : Sparing c (d.lateWin c m) :=
  h.releaseIf (fun hp => hheld hp.1 hp.2.1) fun hp _ => hp.2

lemma lateAlt
    (hheld : c.defersAlt = true → ¬(m = ralt ∧ c.altgr = true) → m ∈ c.old → m ∈ d.held) :
    Sparing c (d.lateAlt c m) :=
  h.releaseIf (fun hp => hheld hp.1 hp.2.2 hp.2.1.1) fun hp _ => hp.2.1

end Sparing

theorem sparing_run (c : Change) : Sparing c ((Draft.mk [] c.old).run c) := by
  have hd : lalt.drags c.altgr = {lalt} := drags_self fun h => by cases h.2
  have hl : lctrl ∈ Mask.ctrl := by simp [Mask.ctrl]
  have hr : rctrl ∈ Mask.ctrl := by simp [Mask.ctrl]
  have hw := (Sparing.nil.winKey (c := c) (m := lwin) (by simp) Iff.rfl).winKey (m := rwin)
    (by simp) (by simp)
  have hs := (hw.earlyShift (m := lshift) (by simp)).earlyShift (m := rshift) (by simp)
  have ha := (hs.altKey (m := lalt) (by simp) hd (by simp)).rightAltKey (by simp)
  have hc := (ha.ctrlKey (m := lctrl) fun hm => by simp [Draft.rightAltKey, hm.altgr hl]).ctrlKey
    (m := rctrl) fun hm => by simp [Draft.rightAltKey, hm.altgr hr]
  have ht := (hc.shiftKey (m := lshift) (by simp +contextual)).shiftKey (m := rshift)
    (by simp +contextual)
  have hlw := (ht.lateWin (m := lwin) (by simp +contextual)).lateWin (m := rwin)
    (by simp +contextual)
  exact (hlw.lateAlt (m := lalt) (by simp +contextual)).lateAlt (m := ralt) (by simp +contextual)

end Draft

/-- A plan from `known` to `wanted` of which every step does something, and no more are taken than
have to be. -/
structure Frugal (altgr : Bool) (known wanted : Mask) (p : Plan) : Prop where
  result : p.result = wanted.settled altgr
  arrives : replay altgr known p.steps = p.result
  press : ∀ u m v, p.steps = u ++ .press m :: v → m ∉ replay altgr known u
  release : ∀ u m v, p.steps = u ++ .release m :: v → m ∈ replay altgr known u
  taps : ∃ n,
    p.steps.filter Step.isMask = (List.replicate n [Step.maskDown, Step.maskUp]).flatten
  once : ∀ m : Modifier, (altgr = true → m ∉ Mask.ctrl) →
    p.steps.countP (·.Moves m) = if m ∈ known ↔ m ∈ wanted then 0 else 1

variable (wanted known : Mask) (altgr : Bool) (w : Disguise)

theorem thrifty_make :
    Thrifty ⟨known, wanted.settled altgr, altgr, w⟩ (make wanted known altgr w).steps := by
  unfold make
  dsimp only
  split_ifs
  · exact thrifty_nil
  · exact (Draft.sparing_run _).thrifty

/-- **Plans are frugal**, whatever is wanted and whatever is down. -/
theorem frugal_make : Frugal altgr known wanted (make wanted known altgr w) := by
  have hthrifty := thrifty_make wanted known altgr w
  have hreplay := replay_make wanted known altgr w
  refine ⟨result_make .., hreplay.trans (result_make ..).symm,
    fun u m v hu => (hthrifty u _ v hu).1, fun u m v hu => (hthrifty u _ v hu).1,
    (orderly_make ..).filter_isMask, fun m hm => ?_⟩
  have hiff : (m ∈ replay altgr known (make wanted known altgr w).steps ↔ m ∈ known) ↔
      (m ∈ known ↔ m ∈ wanted) := by
    have hapart : Change.Apart ⟨known, wanted.settled altgr, altgr, w⟩ m := hm
    rw [hreplay, hapart.mem_settled wanted]
    exact iff_comm
  exact (hthrifty.countP hm).trans (if_congr hiff rfl rfl)

variable {wanted known w}

/-- Without AltGr a plan moves a modifier only to change it. -/
lemma changes_of_moves {m : Modifier} {s : Step} (hs : s ∈ (make wanted known false w).steps)
    (hm : s.Moves m) : m ∈ known ↔ m ∉ wanted := by
  have hzero : ¬(make wanted known false w).steps.countP (·.Moves m) = 0 := fun h =>
    List.countP_eq_zero.mp h s hs (by simpa using hm)
  rw [(frugal_make wanted known false w).once m nofun] at hzero
  by_cases hk : m ∈ known <;> by_cases hw : m ∈ wanted <;> simp_all

/-- **What is down and stays wanted is not touched** on a layout without AltGr. -/
theorem steady_make {m : Modifier} {wanted known : Mask} (hknown : m ∈ known)
    (hwanted : m ∈ wanted) (w : Disguise) :
    ∀ s ∈ (make wanted known false w).steps, ¬s.Moves m :=
  fun _ hs hm => (changes_of_moves hs hm).mp hknown hwanted

end Plan

end KeySynth
