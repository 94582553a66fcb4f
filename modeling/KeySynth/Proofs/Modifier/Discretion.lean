import KeySynth.Proofs.Modifier.Plan

/-!
How a plan lets go of Win and Alt keys.

A plan lets go of such a key while another modifier covers the release, right after a tap of the
mask key, or else only if it is told not to disguise what goes up. What has been put off is covered
because by then everything that is wanted is down.
-/

namespace KeySynth

open Modifier

/-- Letting go of the key can open the Start menu or a menu bar. On a layout with AltGr the right
Alt key is none of these. -/
def Modifier.OpensMenu (altgr : Bool) (m : Modifier) : Prop :=
  m ∈ Mask.win ∪ Mask.alt ∧ ¬(altgr = true ∧ m = ralt)

/-- The modifiers that keep a release of `m` quiet while they are down. -/
def Modifier.cover (m : Modifier) : Mask :=
  if m ∈ Mask.win then .ctrl ∪ .shift ∪ .alt else .ctrl

lemma Modifier.mem_cover_of_ctrl {m n : Modifier} (hn : n ∈ Mask.ctrl) : n ∈ m.cover := by
  unfold cover
  split_ifs <;> simp [hn]

namespace Plan

/-- What a plan may do next after the steps `u`. -/
def Change.Allows (c : Change) (u : List Step) : Step → Prop
  | .press m => m.OpensMenu c.altgr → c.presses m
  | .release m => m.OpensMenu c.altgr → c.releases m ∧
      ((replay c.altgr c.old u).meets m.cover = true ∨ c.disguise.up = false ∨
        ∃ v, u = v ++ [Step.maskDown] ++ [Step.maskUp])
  | .maskDown | .maskUp => True

/-- Steps of which each is allowed after those before it. -/
inductive Discreet (c : Change) : List Step → Prop where
  | nil : Discreet c []
  | snoc {u : List Step} {s : Step} : Discreet c u → c.Allows u s → Discreet c (u ++ [s])

lemma discreet_snoc {c : Change} {u : List Step} {s : Step} :
    Discreet c (u ++ [s]) ↔ Discreet c u ∧ c.Allows u s := by
  refine ⟨fun h => ?_, fun h => h.1.snoc h.2⟩
  generalize hw : u ++ [s] = w at h
  cases h with
  | nil => simp at hw
  | snoc hu hs =>
    obtain ⟨rfl, hs'⟩ := List.append_inj' hw rfl
    cases hs'
    exact ⟨hu, hs⟩

namespace Draft

variable {c : Change} {d : Draft}

/-- The draft is sound and its steps are allowed. -/
structure Careful (c : Change) (d : Draft) : Prop extends Sound c d where
  discreet : Discreet c d.steps

namespace Careful

lemma nil : Careful c ⟨[], c.old⟩ := ⟨sound_nil, .nil⟩

variable (h : Careful c d)
include h

lemma press {m : Modifier} (hm : m.OpensMenu c.altgr → c.presses m) :
    Careful c (d.add c (.press m)) :=
  ⟨h.toSound.press m, h.discreet.snoc hm⟩

/-- Letting go of any other key needs no care. -/
lemma release {m : Modifier} (hm : ¬m.OpensMenu c.altgr) : Careful c (d.add c (.release m)) :=
  ⟨h.toSound.release m, h.discreet.snoc fun ho => absurd ho hm⟩

lemma releaseCovered {m : Modifier} (hr : c.releases m) (hm : d.held.meets m.cover = true) :
    Careful c (d.add c (.release m)) := by
  refine ⟨h.toSound.release m, h.discreet.snoc fun _ => ⟨hr, .inl ?_⟩⟩
  rwa [h.toSound.held]

lemma releaseIf (p : Prop) [Decidable p] {m : Modifier} (hm : ¬m.OpensMenu c.altgr) :
    Careful c (d.releaseIf c p m) := by
  unfold Draft.releaseIf
  split_ifs
  · exact h.release hm
  · exact h

/-- What would be bare is disguised if the plan is asked to. -/
lemma releaseDisguised {m : Modifier} {bare : Bool} (hr : c.releases m)
    (hm : bare = false → d.held.meets m.cover = true) :
    Careful c ((d.tapIf c (bare && c.disguise.up)).add c (.release m)) := by
  cases hb : bare with
  | false => exact h.releaseCovered hr (hm hb)
  | true =>
    rw [Bool.true_and]
    refine ⟨(h.toSound.tapIf _).release m, ?_⟩
    cases hu : c.disguise.up with
    | false => exact h.discreet.snoc fun _ => ⟨hr, .inr (.inl hu)⟩
    | true =>
      have htap : Discreet c (d.steps ++ [Step.maskDown] ++ [Step.maskUp]) :=
        (h.discreet.snoc (s := .maskDown) trivial).snoc (s := .maskUp) trivial
      exact htap.snoc fun _ => ⟨hr, .inr (.inr ⟨_, rfl⟩)⟩

lemma pressWithin (b : Bool) {m : Modifier} (hm : m ∈ Mask.win ∪ Mask.alt)
    (hd : m.drags c.altgr = {m}) (hp : c.presses m) : Careful c (d.pressWithin c b m) := by
  refine ⟨h.toSound.pressWithin b hm hd, ?_⟩
  cases b
  · exact h.discreet.snoc fun _ => hp
  · have hdown : Discreet c (d.steps ++ [Step.maskDown]) := h.discreet.snoc (s := .maskDown) trivial
    exact (hdown.snoc (s := .press m) fun _ => hp).snoc (s := .maskUp) trivial

/-! ### The keys in their turns -/

/-- Nothing but Win keys has moved when it is the turn of a Win key. -/
lemma winKey {m : Modifier} (hm : m ∈ Mask.win) (hheld : ∀ n ∉ Mask.win, n ∈ c.old → n ∈ d.held) :
    Careful c (d.winKey c m) := by
  unfold Draft.winKey
  split_ifs with hr hd hp
  · exact h
  · rw [Bool.and_comm]
    refine h.releaseDisguised hr fun hbare => ?_
    have hold : ∃ n, n ∈ c.old ∧ n ∈ m.cover := by
      simp only [Change.bare, Change.ctrlUp, Bool.and_eq_false_iff, Bool.not_eq_false',
        Mask.meets_iff] at hbare
      rw [cover, if_pos hm]
      rcases hbare with ⟨n, hn, hc⟩ | ⟨n, hn, hc⟩
      · exact ⟨n, hn, by simp [hc]⟩
      · rw [Mask.mem_union] at hc
        exact ⟨n, hn, by rw [Mask.mem_union, Mask.mem_union]; tauto⟩
    obtain ⟨n, hn, hc⟩ := hold
    have hw : n ∉ Mask.win := by
      rw [cover, if_pos hm] at hc
      revert hc
      cases n <;> decide
    exact Mask.meets_iff.mpr ⟨n, hheld n hw hn, hc⟩
  · exact h.pressWithin _ (by simp_all) (drags_win _ hm) hp
  · exact h

/-- No Ctrl key has moved when it is the turn of an Alt key. -/
lemma altKey {m : Modifier} (hm : m ∈ Mask.alt) (hd : m.drags c.altgr = {m})
    (hheld : ∀ n ∈ Mask.ctrl, n ∈ c.old → n ∈ d.held) : Careful c (d.altKey c m) := by
  unfold Draft.altKey
  split_ifs with hr hd hp
  · exact h
  · refine h.releaseDisguised hr fun hup => ?_
    simp only [Change.ctrlUp, Bool.not_eq_false', Mask.meets_iff] at hup
    obtain ⟨n, hn, hc⟩ := hup
    exact Mask.meets_iff.mpr ⟨n, hheld n hc hn, mem_cover_of_ctrl hc⟩
  · exact h.pressWithin _ (by simp_all) hd hp
  · exact h

lemma rightAltKey (hheld : ∀ n ∈ Mask.ctrl, n ∈ c.old → n ∈ d.held) :
    Careful c (d.rightAltKey c) := by
  have hl : ¬lctrl.OpensMenu c.altgr := fun h => by simp [OpensMenu] at h
  have hr : ¬rctrl.OpensMenu c.altgr := fun h => by simp [OpensMenu] at h
  unfold Draft.rightAltKey Draft.altGrKey
  split_ifs with ha
  · exact h.release fun ho => ho.2 ⟨ha, rfl⟩
  · exact ((h.releaseIf _ hl).releaseIf _ hr).press fun ho => absurd ⟨ha, rfl⟩ ho.2
  · exact h
  · exact h.altKey (by simp) (drags_self fun hc => ha hc.1) hheld

lemma ctrlKey {m : Modifier} (hm : ¬m.OpensMenu c.altgr) : Careful c (d.ctrlKey c m) := by
  unfold Draft.ctrlKey
  split_ifs
  · exact h.release hm
  · exact h.press fun ho => absurd ho hm
  · exact h

lemma shiftKey {m : Modifier} (hm : ¬m.OpensMenu c.altgr) : Careful c (d.shiftKey c m) := by
  unfold Draft.shiftKey
  split_ifs
  · exact h.release hm
  · exact h.press fun ho => absurd ho hm
  · exact h

/-- What has been put off is let go of when all that is wanted is down. -/
lemma late (p : Prop) [Decidable p] {m : Modifier} (hnew : c.new ⊆ d.held)
    (hp : p → c.releases m ∧ c.new.meets m.cover = true) : Careful c (d.releaseIf c p m) := by
  unfold Draft.releaseIf
  split_ifs with h'
  · obtain ⟨hr, hm⟩ := hp h'
    obtain ⟨n, hn, hc⟩ := Mask.meets_iff.mp hm
    exact h.releaseCovered hr (Mask.meets_iff.mpr ⟨n, Mask.subset_iff.mp hnew n hn, hc⟩)
  · exact h

end Careful

/-- What a key is let go of for late keeps the modifier that covers it. -/
lemma covered_of_defersWin {m : Modifier} (hm : m ∈ Mask.win) (h : c.defersWin = true) :
    c.new.meets m.cover = true := by
  simp only [Change.defersWin, Change.ctrlStaysUp, Bool.and_eq_true, Bool.or_eq_true,
    Bool.not_not, Mask.meets_iff] at h
  rw [cover, if_pos hm, Mask.meets_iff]
  rcases h.2 with ⟨n, hn, hc⟩ | ⟨n, hn, hc⟩
  · exact ⟨n, hn, by rw [Mask.mem_union, Mask.mem_union]; tauto⟩
  · rw [Mask.mem_union] at hc
    exact ⟨n, hn, by rw [Mask.mem_union, Mask.mem_union]; tauto⟩

lemma covered_of_defersAlt {m : Modifier} (h : c.defersAlt = true) :
    c.new.meets m.cover = true := by
  simp only [Change.defersAlt, Change.ctrlStaysUp, Bool.and_eq_true, Bool.not_not,
    Mask.meets_iff] at h
  obtain ⟨n, hn, hc⟩ := h.2
  exact Mask.meets_iff.mpr ⟨n, hn, mem_cover_of_ctrl hc⟩

lemma subset_of_releaseIf {s : Mask} {p : Prop} [Decidable p] {m : Modifier}
    (h : s ⊆ (d.releaseIf c p m).held) : s ⊆ d.held :=
  Mask.subset_trans h (Mask.subset_iff.mpr fun _ hn => ((mem_releaseIf c d p).mp hn).1)

theorem careful_run (c : Change) : Careful c ((Draft.mk [] c.old).run c) := by
  have hnew : c.new ⊆ ((Draft.mk [] c.old).run c).held := by
    rw [held_run]
    exact Mask.subset_refl _
  have hno : ∀ m, m ∉ Mask.win ∪ Mask.alt → ¬m.OpensMenu c.altgr := fun m hm h => hm h.1
  have hwin : lwin ∈ Mask.win ∧ rwin ∈ Mask.win := by simp
  have hl := Careful.nil.winKey (c := c) hwin.1 fun _ _ hn => hn
  have hr := hl.winKey hwin.2 fun n hn ho => by
    rw [mem_winKey c _ hwin.1, if_neg (by rintro rfl; exact hn hwin.1)]
    exact ho
  have hs := (hr.releaseIf (c.shiftFirst ∧ c.releases lshift) (hno lshift (by decide))).releaseIf
    (c.shiftFirst ∧ c.releases rshift) (hno rshift (by decide))
  have ha := hs.altKey (m := lalt) (by simp) (drags_self fun h => by cases h.2) fun n hn ho => by
    cases n <;> simp_all [Mask.ctrl]
  have hg := ha.rightAltKey fun n hn ho => by
    cases n <;> simp_all [Mask.ctrl]
  have hc := ((hg.ctrlKey (hno lctrl (by decide))).ctrlKey (hno rctrl (by decide))).shiftKey
    (hno lshift (by decide))
  have ht := hc.shiftKey (hno rshift (by decide))
  -- from here on keys only go up, and in the end all that is wanted is down
  have h3 := subset_of_releaseIf hnew
  have h2 := subset_of_releaseIf h3
  have h1 := subset_of_releaseIf h2
  have hlw := ht.late (c.defersWin ∧ c.releases lwin) (subset_of_releaseIf h1) fun hp =>
    ⟨hp.2, covered_of_defersWin hwin.1 hp.1⟩
  have hrw := hlw.late (c.defersWin ∧ c.releases rwin) h1 fun hp =>
    ⟨hp.2, covered_of_defersWin hwin.2 hp.1⟩
  have hla := hrw.late (c.defersAlt ∧ c.releases lalt ∧ ¬(lalt = ralt ∧ c.altgr)) h2 fun hp =>
    ⟨hp.2.1, covered_of_defersAlt hp.1⟩
  exact hla.late (c.defersAlt ∧ c.releases ralt ∧ ¬(ralt = ralt ∧ c.altgr)) h3 fun hp =>
    ⟨hp.2.1, covered_of_defersAlt hp.1⟩

end Draft

/-- **A plan is discreet**: it lets go of no Win or Alt key in the open that it could disguise. -/
theorem discreet_make (wanted known : Mask) (altgr : Bool) (w : Disguise) :
    Discreet ⟨known, wanted.settled altgr, altgr, w⟩ (make wanted known altgr w).steps := by
  unfold make
  dsimp only
  split_ifs
  · exact .nil
  · exact (Draft.careful_run _).discreet

end Plan

end KeySynth
