import KeySynth.Proofs.Modifier.Mask

/-!
What a plan does: its steps take the modifiers from the known set to the wanted one, settled, and
the mask key is only ever tapped, at once or round the press of a single Win or Alt key.
-/

namespace KeySynth

open Modifier

/-- Steps in which the mask key goes down only to come up again at once, or after one press of a
Win or Alt key that drags nothing along. -/
inductive Orderly (altgr : Bool) : List Step → Prop where
  | nil : Orderly altgr []
  | press (m : Modifier) {u : List Step} : Orderly altgr u → Orderly altgr (u ++ [Step.press m])
  | release (m : Modifier) {u : List Step} : Orderly altgr u → Orderly altgr (u ++ [Step.release m])
  | tap {u : List Step} : Orderly altgr u → Orderly altgr (u ++ [Step.maskDown] ++ [Step.maskUp])
  | tapRound (m : Modifier) {u : List Step} : m ∈ Mask.win ∪ Mask.alt → m.drags altgr = {m} →
      Orderly altgr u → Orderly altgr (u ++ [Step.maskDown] ++ [Step.press m] ++ [Step.maskUp])

/-- The step moves the key of `m`. -/
def Step.Moves (m : Modifier) (s : Step) : Prop := s = .press m ∨ s = .release m

instance (m : Modifier) (s : Step) : Decidable (s.Moves m) := inferInstanceAs (Decidable (_ ∨ _))

lemma replay_snoc (altgr : Bool) (held : Mask) (u : List Step) (s : Step) :
    replay altgr held (u ++ [s]) = s.apply altgr (replay altgr held u) := by
  rw [replay_append]; rfl

@[simp] lemma Modifier.drags_self {m : Modifier} {altgr : Bool} (h : ¬(altgr = true ∧ m = ralt)) :
    m.drags altgr = {m} := if_neg h

lemma Modifier.drags_win {m : Modifier} (altgr : Bool) (hm : m ∈ Mask.win) :
    m.drags altgr = {m} := by
  refine drags_self fun ⟨_, h⟩ => ?_
  subst h
  simp at hm

namespace Plan.Draft

variable (c : Change) (d : Draft)

/-- The turn of a Win or Alt key: put off, or within taps of the mask key. -/
def turn (defers tapUp tapDown : Bool) (m : Modifier) : Draft :=
  if c.releases m then
    if defers then d else (d.tapIf c tapUp).add c (.release m)
  else if c.presses m then d.pressWithin c tapDown m
  else d

lemma winKey_eq (m : Modifier) : d.winKey c m =
    d.turn c c.defersWin (c.disguise.up && c.bare) c.disguise.down m := rfl

lemma altKey_eq (m : Modifier) : d.altKey c m =
    d.turn c c.defersAlt (c.ctrlUp && c.disguise.up) (c.disguise.down && c.ctrlStaysUp) m := rfl

/-- The draft's steps are orderly and lead from the old modifiers to those it holds. -/
structure Sound : Prop where
  orderly : Orderly c.altgr d.steps
  held : replay c.altgr c.old d.steps = d.held

variable {c d}

lemma held_add (h : replay c.altgr c.old d.steps = d.held) (s : Step) :
    replay c.altgr c.old (d.add c s).steps = (d.add c s).held := by
  show replay c.altgr c.old (d.steps ++ [s]) = s.apply c.altgr d.held
  rw [replay_snoc, h]

lemma sound_nil : Sound c ⟨[], c.old⟩ := ⟨.nil, rfl⟩

lemma Sound.press (h : Sound c d) (m : Modifier) : Sound c (d.add c (.press m)) :=
  ⟨h.orderly.press m, held_add h.held _⟩

lemma Sound.release (h : Sound c d) (m : Modifier) : Sound c (d.add c (.release m)) :=
  ⟨h.orderly.release m, held_add h.held _⟩

lemma Sound.releaseIf (h : Sound c d) (p : Prop) [Decidable p] (m : Modifier) :
    Sound c (d.releaseIf c p m) := by
  unfold Draft.releaseIf
  split_ifs
  · exact h.release m
  · exact h

lemma Sound.tapIf (h : Sound c d) (b : Bool) : Sound c (d.tapIf c b) := by
  cases b
  · exact h
  · exact ⟨h.orderly.tap, held_add (held_add h.held _) _⟩

lemma Sound.pressWithin (h : Sound c d) (b : Bool) {m : Modifier} (hm : m ∈ Mask.win ∪ Mask.alt)
    (hd : m.drags c.altgr = {m}) : Sound c (d.pressWithin c b m) := by
  cases b
  · exact h.press m
  · exact ⟨h.orderly.tapRound m hm hd, held_add (held_add (held_add h.held _) _) _⟩

lemma Sound.turn (h : Sound c d) (f u w : Bool) {m : Modifier} (hm : m ∈ Mask.win ∪ Mask.alt)
    (hd : m.drags c.altgr = {m}) : Sound c (d.turn c f u w m) := by
  unfold Draft.turn
  split_ifs
  · exact h
  · exact (h.tapIf _).release m
  · exact h.pressWithin _ hm hd
  · exact h

lemma Sound.winKey (h : Sound c d) {m : Modifier} (hm : m ∈ Mask.win) :
    Sound c (d.winKey c m) :=
  winKey_eq c d m ▸ h.turn _ _ _ (Mask.mem_union.mpr (.inl hm)) (drags_win _ hm)

lemma Sound.altKey (h : Sound c d) {m : Modifier} (hm : m ∈ Mask.alt)
    (hd : m.drags c.altgr = {m}) : Sound c (d.altKey c m) :=
  altKey_eq c d m ▸ h.turn _ _ _ (Mask.mem_union.mpr (.inr hm)) hd

lemma Sound.rightAltKey (h : Sound c d) : Sound c (d.rightAltKey c) := by
  unfold Draft.rightAltKey Draft.altGrKey
  split_ifs with ha
  · exact h.release _
  · exact ((h.releaseIf _ _).releaseIf _ _).press _
  · exact h
  · exact h.altKey (by simp) (drags_self fun hc => ha hc.1)

lemma Sound.ctrlKey (h : Sound c d) (m : Modifier) : Sound c (d.ctrlKey c m) := by
  unfold Draft.ctrlKey
  split_ifs
  · exact h.release m
  · exact h.press m
  · exact h

lemma Sound.shiftKey (h : Sound c d) (m : Modifier) : Sound c (d.shiftKey c m) := by
  unfold Draft.shiftKey
  split_ifs
  · exact h.release m
  · exact h.press m
  · exact h

lemma Sound.run (h : Sound c d) : Sound c (d.run c) := by
  have hw := (h.winKey (m := lwin) (by simp)).winKey (m := rwin) (by simp)
  have hs := (hw.releaseIf (c.shiftFirst ∧ c.releases lshift) lshift).releaseIf
    (c.shiftFirst ∧ c.releases rshift) rshift
  have ha := (hs.altKey (m := lalt) (by simp) (drags_self (by simp))).rightAltKey
  have hc := (ha.ctrlKey lctrl).ctrlKey rctrl
  have ht := (hc.shiftKey lshift).shiftKey rshift
  have hl := (ht.releaseIf (c.defersWin ∧ c.releases lwin) lwin).releaseIf
    (c.defersWin ∧ c.releases rwin) rwin
  exact (hl.releaseIf _ lalt).releaseIf _ ralt

/-! ### Where a plan leads -/

variable (c d)

@[simp] lemma mem_releaseIf (p : Prop) [Decidable p] {m n : Modifier} :
    n ∈ (d.releaseIf c p m).held ↔ n ∈ d.held ∧ ¬(p ∧ n ∈ m.drags c.altgr) := by
  unfold releaseIf
  split_ifs with h <;> simp [add, Step.apply, h]

@[simp] lemma mem_earlyShift {m n : Modifier} : n ∈ (d.earlyShift c m).held ↔
    n ∈ d.held ∧ ¬((c.shiftFirst = true ∧ c.releases m) ∧ n ∈ m.drags c.altgr) :=
  mem_releaseIf c d _

@[simp] lemma mem_lateWin {m n : Modifier} : n ∈ (d.lateWin c m).held ↔
    n ∈ d.held ∧ ¬((c.defersWin = true ∧ c.releases m) ∧ n ∈ m.drags c.altgr) :=
  mem_releaseIf c d _

@[simp] lemma mem_lateAlt {m n : Modifier} : n ∈ (d.lateAlt c m).held ↔ n ∈ d.held ∧
    ¬((c.defersAlt = true ∧ c.releases m ∧ ¬(m = ralt ∧ c.altgr = true)) ∧
      n ∈ m.drags c.altgr) :=
  mem_releaseIf c d _

lemma tapIf_held (b : Bool) : (d.tapIf c b).held = d.held := by cases b <;> rfl

lemma pressWithin_held (b : Bool) (m : Modifier) :
    (d.pressWithin c b m).held = d.held ∪ m.drags c.altgr := by cases b <;> rfl

lemma mem_turn (f u w : Bool) {m n : Modifier} (hd : m.drags c.altgr = {m}) :
    n ∈ (d.turn c f u w m).held ↔
      if n = m then n ∈ d.held ∧ ¬(c.releases m ∧ ¬f) ∨ c.presses m else n ∈ d.held := by
  have hx : c.releases m → ¬c.presses m := fun h h' => h'.1 h.1
  unfold turn
  split_ifs with h1 h2 h3 h4 h5 h6 <;>
    simp_all [add, Step.apply, tapIf_held, pressWithin_held]

@[simp] lemma mem_winKey {m n : Modifier} (hm : m ∈ Mask.win) :
    n ∈ (d.winKey c m).held ↔
      if n = m then n ∈ d.held ∧ ¬(c.releases m ∧ ¬c.defersWin) ∨ c.presses m else n ∈ d.held :=
  mem_turn c d _ _ _ (drags_win c.altgr hm)

@[simp] lemma mem_altKey {m n : Modifier} (hd : m.drags c.altgr = {m}) :
    n ∈ (d.altKey c m).held ↔
      if n = m then n ∈ d.held ∧ ¬(c.releases m ∧ ¬c.defersAlt) ∨ c.presses m else n ∈ d.held :=
  mem_turn c d _ _ _ hd

@[simp] lemma mem_ctrlKey {m n : Modifier} (hd : m.drags c.altgr = {m}) :
    n ∈ (d.ctrlKey c m).held ↔ if n = m then n ∈ c.new else n ∈ d.held := by
  unfold ctrlKey
  by_cases hn : n = m
  · subst hn
    rw [if_pos rfl]
    split_ifs with h1 h2
    · simp [add, Step.apply, h1]
    · simp [add, Step.apply, h2]
    · tauto
  · rw [if_neg hn]
    split_ifs <;> simp [add, Step.apply, hd, hn]

@[simp] lemma mem_shiftKey {m n : Modifier} (hd : m.drags c.altgr = {m}) :
    n ∈ (d.shiftKey c m).held ↔
      if n = m then n ∈ d.held ∧ n ∈ c.new ∨ c.presses m else n ∈ d.held := by
  unfold shiftKey
  by_cases hn : n = m
  · subst hn
    rw [if_pos rfl]
    split_ifs with h1 h2
    · simp [add, Step.apply, h1, Change.presses]
    · simp [add, Step.apply, h2]
    · tauto
  · rw [if_neg hn]
    split_ifs <;> simp [add, Step.apply, hd, hn]

/-- What becomes of the Ctrl keys here is settled in their own turn. -/
@[simp] lemma mem_rightAltKey {n : Modifier} (hl : n ≠ lctrl) (hr : n ≠ rctrl) :
    n ∈ (d.rightAltKey c).held ↔
      if n = ralt then
        n ∈ d.held ∧ ¬(c.releases ralt ∧ (c.altgr = true ∨ ¬c.defersAlt)) ∨ c.presses ralt
      else n ∈ d.held := by
  by_cases ha : c.altgr = true
  · have hx : c.releases ralt → ¬c.presses ralt := fun h h' => h'.1 h.1
    unfold rightAltKey altGrKey
    split_ifs with h1 h2 h3 h4 <;> simp_all [add, Step.apply, mem_releaseIf]
  · have hd : ralt.drags c.altgr = {ralt} := drags_self fun h => ha h.1
    simp [rightAltKey, ha, mem_altKey c d hd]

/-- Every change is made, whatever is put off and whatever AltGr drags along. -/
theorem held_run (u : List Step) : ((Draft.mk u c.old).run c).held = c.new := by
  refine Mask.ext fun n => ?_
  unfold run
  -- each key keeps to its own turns
  rcases Bool.eq_false_or_eq_true c.altgr with ha | ha <;>
    cases n <;> simp [Change.releases, Change.presses, ha] <;> tauto

end Draft

variable (wanted known : Mask) (altgr : Bool) (w : Disguise)

lemma orderly_make : Orderly altgr (make wanted known altgr w).steps := by
  unfold make
  dsimp only
  split_ifs
  · exact .nil
  · exact (Draft.sound_nil (c := ⟨known, wanted.settled altgr, altgr, w⟩)).run.orderly

/-- **A plan gets there**: its steps lead from the known modifiers to the wanted ones, settled. -/
theorem replay_make :
    replay altgr known (make wanted known altgr w).steps = wanted.settled altgr := by
  unfold make
  dsimp only
  split_ifs with h
  · exact h.symm
  · have hs := (Draft.sound_nil (c := ⟨known, wanted.settled altgr, altgr, w⟩)).run
    exact hs.held.trans (Draft.held_run _ [])

lemma result_make : (make wanted known altgr w).result = wanted.settled altgr := by
  unfold make
  dsimp only
  split_ifs with h
  · exact h.symm
  · exact Draft.held_run _ []

end Plan

end KeySynth
