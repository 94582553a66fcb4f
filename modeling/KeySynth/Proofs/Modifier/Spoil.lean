import KeySynth.Proofs.Modifier.Plan

/-!
What playing a plan leaves down.

A plan is made as if its taps of the mask key moved no modifier. `Hands` plays the steps with what
the mask key moves, and leaves out a tap of a key that is down, as an engine does. The two agree
but for a Win or Alt key that serves as the mask key while it is itself pressed, and for the Ctrl
that a right Alt key as the mask key drags along: `Change.Spoils` says when.
-/

namespace KeySynth

open Modifier

/-- What is down while steps are played, and whether the tap that has begun is left out. -/
structure Hands where
  held : Mask
  skipped : Bool

namespace Hands

variable (altgr : Bool) (key : VirtualKey)

/-- One step, with `key` as the mask key. -/
def step (h : Hands) : Step → Hands
  | .press m => { h with held := h.held ∪ m.drags altgr }
  | .release m => { h with held := h.held \ m.drags altgr }
  | .maskDown =>
    if h.held.meets (Mask.ofKey key) then { h with skipped := true }
    else ⟨h.held ∪ Ledger.moved key altgr, false⟩
  | .maskUp => ⟨if h.skipped then h.held else h.held \ Ledger.moved key altgr, false⟩

def run (h : Hands) (steps : List Step) : Hands := steps.foldl (step altgr key) h

@[simp] lemma run_nil (h : Hands) : run altgr key h [] = h := rfl

@[simp] lemma run_cons (h : Hands) (s : Step) (u : List Step) :
    run altgr key h (s :: u) = run altgr key (step altgr key h s) u := rfl

lemma run_append (h : Hands) (u v : List Step) :
    run altgr key h (u ++ v) = run altgr key (run altgr key h u) v := by
  simp [run]

variable {altgr key} {h : Hands} {n m : Modifier}

/-- A tap that is not left out lets go of all that the mask key moves. -/
lemma mem_tap :
    n ∈ (run altgr key h [.maskDown, .maskUp]).held ↔
      n ∈ h.held ∧ ¬(¬h.held.meets (Mask.ofKey key) = true ∧ n ∈ Ledger.moved key altgr) := by
  by_cases hb : h.held.meets (Mask.ofKey key) = true
  · simp [step, hb]
  · by_cases hn : n ∈ Ledger.moved key altgr <;> simp [step, hb, -Ledger.mem_moved, hn]

lemma mem_tapRound :
    n ∈ (run altgr key h [.maskDown, .press m, .maskUp]).held ↔
      (n ∈ h.held ∨ n ∈ m.drags altgr) ∧
        ¬(¬h.held.meets (Mask.ofKey key) = true ∧ n ∈ Ledger.moved key altgr) := by
  by_cases hb : h.held.meets (Mask.ofKey key) = true
  · simp [step, hb]
  · by_cases hn : n ∈ Ledger.moved key altgr <;> simp [step, hb, -Ledger.mem_moved, hn]

end Hands

namespace Plan

/-- With `key` as the mask key the change leaves `n` up, which is wanted: `n` is the mask key's own
modifier and is pressed within a tap, or it is the Ctrl of AltGr and goes up with a tap round the
press of a Win key. -/
def Change.Spoils (c : Change) (key : VirtualKey) (n : Modifier) : Prop :=
  c.disguise.down = true ∧
    (ofKey? key = some n ∧ c.presses n ∧
        (n ∈ Mask.win ∨
          n ∈ Mask.alt ∧ c.ctrlStaysUp = true ∧ ¬(c.altgr = true ∧ n = ralt)) ∨
      n = lctrl ∧ c.altgr = true ∧ key = .ralt ∧ lctrl ∈ c.old ∧ lctrl ∈ c.new ∧
        ralt ∉ c.old ∧ ralt ∉ c.new ∧ (c.presses lwin ∨ c.presses rwin))

instance (c : Change) (key : VirtualKey) (n : Modifier) : Decidable (c.Spoils key n) :=
  inferInstanceAs (Decidable (_ ∧ _))

namespace Draft

variable (c : Change) (key : VirtualKey) (d : Draft)

/-- What is down once the draft's steps have been played. -/
def down : Mask := (Hands.run c.altgr key ⟨c.old, false⟩ d.steps).held

/-- A tap that begins now is left out. -/
def blocked : Prop := (d.down c key).meets (Mask.ofKey key) = true

variable {n m : Modifier}

lemma mem_down_press :
    n ∈ (d.add c (.press m)).down c key ↔ n ∈ d.down c key ∨ n ∈ m.drags c.altgr := by
  simp [down, add, Hands.run_append, Hands.step]

lemma mem_down_release :
    n ∈ (d.add c (.release m)).down c key ↔ n ∈ d.down c key ∧ n ∉ m.drags c.altgr := by
  simp [down, add, Hands.run_append, Hands.step]

lemma mem_down_releaseIf (p : Prop) [Decidable p] :
    n ∈ (d.releaseIf c p m).down c key ↔ n ∈ d.down c key ∧ ¬(p ∧ n ∈ m.drags c.altgr) := by
  unfold releaseIf
  split_ifs with h
  · simp [mem_down_release, h]
  · simp [h]

lemma mem_down_tapIf (b : Bool) :
    n ∈ (d.tapIf c b).down c key ↔
      n ∈ d.down c key ∧ ¬(b = true ∧ ¬d.blocked c key ∧ n ∈ Ledger.moved key c.altgr) := by
  cases b
  · simp [tapIf]
  · have h := @Hands.mem_tap c.altgr key (Hands.run c.altgr key ⟨c.old, false⟩ d.steps) n
    rw [← Hands.run_append] at h
    simpa [down, blocked, tapIf, add] using h

lemma mem_down_pressWithin (b : Bool) :
    n ∈ (d.pressWithin c b m).down c key ↔
      (n ∈ d.down c key ∨ n ∈ m.drags c.altgr) ∧
        ¬(b = true ∧ ¬d.blocked c key ∧ n ∈ Ledger.moved key c.altgr) := by
  cases b
  · simp [pressWithin, mem_down_press]
  · have h := @Hands.mem_tapRound c.altgr key (Hands.run c.altgr key ⟨c.old, false⟩ d.steps) n m
    rw [← Hands.run_append] at h
    simpa [down, blocked, pressWithin, add] using h

/-! ### The mask key's own modifier -/

variable {c key d}

lemma blocked_iff (hk : ofKey? key = some n) : d.blocked c key ↔ n ∈ d.down c key := by
  simp [blocked, Mask.meets_iff, hk]

/-- A turn of another key moves `n` only by a tap of the mask key. -/
lemma mem_down_turn {f u w : Bool} (hn : n ≠ m) (hd : m.drags c.altgr = {m}) :
    n ∈ (d.turn c f u w m).down c key ↔
      n ∈ d.down c key ∧
        ¬((c.releases m ∧ f = false ∧ u = true ∨ c.presses m ∧ w = true) ∧
          ¬d.blocked c key ∧ n ∈ Ledger.moved key c.altgr) := by
  have hx : c.releases m → ¬c.presses m := fun h h' => h'.1 h.1
  unfold turn
  split_ifs with hr hf hp
  · simp [hf, hx hr]
  · rw [mem_down_release, mem_down_tapIf, hd, Mask.mem_singleton]
    simp [hn, hr, hf, hx hr]
  · rw [mem_down_pressWithin, hd, Mask.mem_singleton]
    simp [hn, hr, hp]
  · simp [hr, hp]

/-- The mask key's modifier keeps its place in the turns of the other keys. In its own turn it is
lost if it is pressed within a tap. -/
lemma mem_down_turn_self {f u w : Bool} (hk : ofKey? key = some n) (hd : m.drags c.altgr = {m}) :
    n ∈ (d.turn c f u w m).down c key ↔
      if n = m then n ∈ d.down c key ∧ ¬(c.releases m ∧ f = false) ∨ c.presses m ∧ w = false
      else n ∈ d.down c key := by
  split_ifs with hn
  · subst hn
    have hx : c.releases n → ¬c.presses n := fun h h' => h'.1 h.1
    unfold turn
    split_ifs with hr hf hp
    · simp [hf, hx hr]
    · simp [mem_down_release, hd, hr, hf, hx hr]
    · rw [mem_down_pressWithin, hd]
      cases w <;> simp [hr, hp, hk, blocked_iff hk]
    · simp [hr, hp]
  · rw [mem_down_turn hn hd, and_iff_left_iff_imp]
    exact fun h hc => hc.2.1 ((blocked_iff hk).mpr h)

lemma mem_down_ctrlKey (hn : n ≠ m) (hd : m.drags c.altgr = {m}) :
    n ∈ (d.ctrlKey c m).down c key ↔ n ∈ d.down c key := by
  unfold ctrlKey
  split_ifs <;> simp [mem_down_release, mem_down_press, hd, hn]

lemma mem_down_shiftKey (hn : n ≠ m) (hd : m.drags c.altgr = {m}) :
    n ∈ (d.shiftKey c m).down c key ↔ n ∈ d.down c key := by
  unfold shiftKey
  split_ifs <;> simp [mem_down_release, mem_down_press, hd, hn]

lemma mem_down_rightAltKey (hk : ofKey? key = some n) (hl : n ≠ lctrl) (hr : n ≠ rctrl) :
    n ∈ (d.rightAltKey c).down c key ↔
      if n = ralt then
        n ∈ d.down c key ∧ ¬(c.releases ralt ∧ (c.altgr = true ∨ c.defersAlt = false)) ∨
          c.presses ralt ∧ (c.altgr = true ∨ (c.disguise.down && c.ctrlStaysUp) = false)
      else n ∈ d.down c key := by
  by_cases ha : c.altgr = true
  · have hx : c.releases ralt → ¬c.presses ralt := fun h h' => h'.1 h.1
    unfold rightAltKey altGrKey
    split_ifs with h1 h2 h3 h4 <;>
      simp_all [mem_down_release, mem_down_press, mem_down_releaseIf]
  · have hd : ralt.drags c.altgr = {ralt} := drags_self fun h => ha h.1
    rw [rightAltKey, if_neg ha, altKey_eq, mem_down_turn_self hk hd]
    simp [ha]

/-- A Win or Alt key that is the mask key gets where it is wanted unless it is pressed within a
tap. -/
lemma mem_down_run_self (c : Change) (hk : ofKey? key = some n) (hn : n ∈ Mask.win ∪ Mask.alt) :
    n ∈ ((Draft.mk [] c.old).run c).down c key ↔ n ∈ c.new ∧ ¬c.Spoils key n := by
  have hd : ∀ m, m ≠ ralt → m.drags c.altgr = {m} := fun m hm => drags_self fun h => hm h.2
  have hc : n ≠ lctrl ∧ n ≠ rctrl ∧ n ≠ lshift ∧ n ≠ rshift := by
    refine ⟨?_, ?_, ?_, ?_⟩ <;> rintro rfl <;> simp at hn
  simp only [run, lateAlt, lateWin, earlyShift, mem_down_releaseIf,
    mem_down_shiftKey hc.2.2.1 (hd lshift (by decide)),
    mem_down_shiftKey hc.2.2.2 (hd rshift (by decide)),
    mem_down_ctrlKey hc.1 (hd lctrl (by decide)), mem_down_ctrlKey hc.2.1 (hd rctrl (by decide)),
    mem_down_rightAltKey hk hc.1 hc.2.1, winKey_eq, altKey_eq,
    mem_down_turn_self hk (hd lalt (by decide)), mem_down_turn_self hk (hd lwin (by decide)),
    mem_down_turn_self hk (hd rwin (by decide))]
  have hnil : n ∈ (Draft.mk [] c.old).down c key ↔ n ∈ c.old := Iff.rfl
  rcases Bool.eq_false_or_eq_true c.altgr with ha | ha <;>
    cases n <;> simp [Change.releases, Change.presses, Change.Spoils, hnil, hk, ha] at hn ⊢ <;>
      grind

/-! ### The Ctrl of AltGr -/

lemma mem_down_ctrlKey_self (hd : n.drags c.altgr = {n}) :
    n ∈ (d.ctrlKey c n).down c key ↔
      n ∈ d.down c key ∧ (n ∈ d.held → n ∈ c.new) ∨ n ∉ d.held ∧ n ∈ c.new := by
  unfold ctrlKey
  split_ifs with h1 h2
  · simp [mem_down_release, hd, h1]
  · simp [mem_down_press, hd, h2]
  · tauto

/-- The right Alt key takes the left Ctrl key along, in a plan ... -/
lemma lctrl_mem_rightAltKey (ha : c.altgr = true) :
    lctrl ∈ (d.rightAltKey c).held ↔ ¬c.releases ralt ∧ (c.presses ralt ∨ lctrl ∈ d.held) := by
  have hx : c.releases ralt → ¬c.presses ralt := fun h h' => h'.1 h.1
  rw [rightAltKey, if_pos ha, altGrKey]
  split_ifs with h1 h2
  · simp [add, Step.apply, ha, h1]
  · simp [add, Step.apply, ha, h1, h2]
  · simp [h1, h2]

/-- ... and when it is played. -/
lemma lctrl_mem_down_rightAltKey (ha : c.altgr = true) :
    lctrl ∈ (d.rightAltKey c).down c key ↔
      ¬c.releases ralt ∧ (c.presses ralt ∨ lctrl ∈ d.down c key) := by
  have hx : c.releases ralt → ¬c.presses ralt := fun h h' => h'.1 h.1
  rw [rightAltKey, if_pos ha, altGrKey]
  split_ifs with h1 h2
  · simp [mem_down_release, ha, h1]
  · simp [mem_down_press, ha, h1, h2]
  · simp [h1, h2]

lemma lctrl_not_mem_of_ctrlUp (h : c.ctrlUp = true) : lctrl ∉ c.old := by
  simp only [Change.ctrlUp, Bool.not_eq_true', Mask.meets_eq_false] at h
  exact fun hm => h _ hm (by simp [Mask.ctrl])

lemma lctrl_not_mem_of_ctrlStaysUp (h : c.ctrlStaysUp = true) : lctrl ∉ c.new := by
  simp only [Change.ctrlStaysUp, Bool.not_eq_true', Mask.meets_eq_false] at h
  exact fun hm => h _ hm (by simp [Mask.ctrl])

/-- The draft when the turn of the right Alt key comes. -/
def beforeRightAlt (c : Change) : Draft :=
  ((((Draft.mk [] c.old).winKey c lwin).winKey c rwin).earlyShift c lshift).earlyShift c rshift
    |>.altKey c lalt

lemma run_eq (c : Change) : (Draft.mk [] c.old).run c =
    (((((((((beforeRightAlt c).rightAltKey c).ctrlKey c lctrl).ctrlKey c rctrl).shiftKey c
      lshift).shiftKey c rshift).lateWin c lwin).lateWin c rwin).lateAlt c lalt).lateAlt c ralt :=
  rfl

lemma lctrl_mem_beforeRightAlt (c : Change) : lctrl ∈ (beforeRightAlt c).held ↔ lctrl ∈ c.old := by
  have hd : lalt.drags c.altgr = {lalt} := drags_self fun h => absurd h.2 (by decide)
  have hl : lwin ∈ Mask.win := by simp
  have hr : rwin ∈ Mask.win := by simp
  rw [beforeRightAlt, mem_altKey c _ hd]
  simp [earlyShift, mem_releaseIf, mem_winKey c _ hr, mem_winKey c _ hl]

/-- A tap before a release finds no Ctrl down, so only one round a press can let go of it. -/
lemma lctrl_mem_down_beforeRightAlt (c : Change) (ha : c.altgr = true) :
    lctrl ∈ (beforeRightAlt c).down c .ralt ↔
      lctrl ∈ c.old ∧ ¬(c.disguise.down = true ∧ ralt ∉ c.old ∧
        (c.presses lwin ∨ c.presses rwin ∨ c.presses lalt ∧ c.ctrlStaysUp = true)) := by
  have hk : ofKey? VirtualKey.ralt = some ralt := by decide
  have hd : ∀ m, m ≠ ralt → m.drags c.altgr = {m} := fun m hm => drags_self fun h => hm h.2
  have hnil : ∀ n, n ∈ (Draft.mk [] c.old).down c .ralt ↔ n ∈ c.old := fun n => Iff.rfl
  have hup : c.ctrlUp = true → lctrl ∉ c.old := lctrl_not_mem_of_ctrlUp
  have hbare : c.bare = true → lctrl ∉ c.old := fun h => hup (Bool.and_eq_true_iff.mp h).1
  simp only [beforeRightAlt, altKey_eq, winKey_eq, earlyShift, mem_down_releaseIf, blocked_iff hk,
    mem_down_turn (show lctrl ≠ lalt by decide) (hd lalt (by decide)),
    mem_down_turn (show lctrl ≠ rwin by decide) (hd rwin (by decide)),
    mem_down_turn (show lctrl ≠ lwin by decide) (hd lwin (by decide)),
    mem_down_turn_self hk (hd lwin (by decide)), mem_down_turn_self hk (hd rwin (by decide)), hnil]
  simp [ha]
  grind

/-- With the right Alt key as the mask key the left Ctrl key gets where it is wanted unless a tap
round the press of a Win key lets go of it. -/
lemma lctrl_mem_down_run (c : Change) (ha : c.altgr = true) :
    lctrl ∈ ((Draft.mk [] c.old).run c).down c .ralt ↔
      lctrl ∈ c.new ∧ ¬c.Spoils .ralt lctrl := by
  have hk : ofKey? VirtualKey.ralt = some ralt := by decide
  have hd : ∀ m, m ≠ ralt → m.drags c.altgr = {m} := fun m hm => drags_self fun h => hm h.2
  have hstays : c.ctrlStaysUp = true → lctrl ∉ c.new := lctrl_not_mem_of_ctrlStaysUp
  have hdown := lctrl_mem_down_beforeRightAlt c ha
  have hheld := lctrl_mem_beforeRightAlt c
  simp only [run_eq, lateAlt, lateWin, mem_down_releaseIf,
    mem_down_shiftKey (show lctrl ≠ lshift by decide) (hd lshift (by decide)),
    mem_down_shiftKey (show lctrl ≠ rshift by decide) (hd rshift (by decide)),
    mem_down_ctrlKey (show lctrl ≠ rctrl by decide) (hd rctrl (by decide)),
    mem_down_ctrlKey_self (hd lctrl (by decide)), lctrl_mem_down_rightAltKey ha,
    lctrl_mem_rightAltKey ha, hdown, hheld]
  simp only [Change.releases, Change.presses, Change.Spoils, hk]
  simp [ha]
  grind

/-! ### All others -/

/-- A modifier that the mask key leaves alone, or that no step presses within a tap, is where the
plan has it. -/
lemma mem_run_of_orderly {altgr : Bool} {key : VirtualKey} {old : Mask}
    (hn : n ∈ Ledger.moved key altgr → ofKey? key = some n ∧ n ∉ Mask.win ∪ Mask.alt)
    {u : List Step} (hu : Orderly altgr u) :
    n ∈ (Hands.run altgr key ⟨old, false⟩ u).held ↔ n ∈ replay altgr old u := by
  have hm : ∀ h : Hands, n ∈ Ledger.moved key altgr → n ∈ h.held →
      h.held.meets (Mask.ofKey key) = true := fun h hk hh =>
    Mask.meets_iff.mpr ⟨n, hh, Mask.mem_ofKey.mpr (hn hk).1⟩
  induction hu with
  | nil => rfl
  | press m _ ih => simp [Hands.run_append, Hands.step, replay_snoc, Step.apply, ih]
  | release m _ ih => simp [Hands.run_append, Hands.step, replay_snoc, Step.apply, ih]
  | @tap u _ ih =>
    have hr : replay altgr old (u ++ [.maskDown] ++ [.maskUp]) = replay altgr old u := by
      rw [replay_snoc, replay_snoc]
      rfl
    rw [hr, List.append_assoc, Hands.run_append, List.singleton_append, Hands.mem_tap]
    exact (and_iff_left_of_imp fun hh hc => hc.1 (hm _ hc.2 hh)).trans ih
  | @tapRound m u hw hd _ ih =>
    have hr : replay altgr old (u ++ [.maskDown] ++ [.press m] ++ [.maskUp]) =
        replay altgr old u ∪ {m} := by
      rw [replay_snoc, replay_snoc, replay_snoc, ← hd]
      rfl
    rw [hr, List.append_assoc, List.append_assoc, Hands.run_append, List.singleton_append,
      List.singleton_append, Hands.mem_tapRound, hd, Mask.mem_union, Mask.mem_singleton]
    refine (and_iff_left_of_imp fun hh hc => ?_).trans (or_congr_left ih)
    refine hc.1 (hm _ hc.2 (hh.resolve_right ?_))
    rintro rfl
    exact (hn hc.2).2 hw

/-- **Played with any mask key the steps of a change lead where it leads, but for what the key
spoils.** -/
theorem mem_down_run (c : Change) (key : VirtualKey) (n : Modifier) :
    n ∈ ((Draft.mk [] c.old).run c).down c key ↔ n ∈ c.new ∧ ¬c.Spoils key n := by
  have horderly (hn : n ∈ Ledger.moved key c.altgr →
      ofKey? key = some n ∧ n ∉ Mask.win ∪ Mask.alt) :
      n ∈ ((Draft.mk [] c.old).run c).down c key ↔ n ∈ c.new ∧ ¬c.Spoils key n := by
    have hs : ¬c.Spoils key n := by
      rintro ⟨_, ⟨hk, _, hw⟩ | ⟨rfl, ha, rfl, _⟩⟩
      · exact (hn (by simp [hk])).2 (by simp only [Mask.mem_union]; tauto)
      · exact absurd (hn (by simp [ha])).1 (by decide)
    have hrun := (sound_nil (c := c)).run
    rw [down, mem_run_of_orderly hn hrun.orderly, hrun.held, held_run]
    exact (and_iff_left hs).symm
  by_cases hk : ofKey? key = some n
  · by_cases hw : n ∈ Mask.win ∪ Mask.alt
    · exact mem_down_run_self c hk hw
    · exact horderly fun _ => ⟨hk, hw⟩
  · by_cases hc : c.altgr = true ∧ key = .ralt ∧ n = lctrl
    · obtain ⟨ha, rfl, rfl⟩ := hc
      exact lctrl_mem_down_run c ha
    · exact horderly fun hm => absurd (Ledger.mem_moved.mp hm) (not_or.mpr ⟨hk, hc⟩)

end Draft

lemma Change.Spoils.presses {c : Change} {key : VirtualKey} {n : Modifier} (h : c.Spoils key n) :
    ∃ m, c.presses m := by
  rcases h.2 with ⟨_, hp, _⟩ | ⟨_, _, _, _, _, _, _, hp | hp⟩
  · exact ⟨n, hp⟩
  · exact ⟨lwin, hp⟩
  · exact ⟨rwin, hp⟩

theorem mem_run_make (wanted known : Mask) (altgr : Bool) (w : Disguise) (key : VirtualKey)
    (n : Modifier) :
    n ∈ (Hands.run altgr key ⟨known, false⟩ (make wanted known altgr w).steps).held ↔
      n ∈ wanted.settled altgr ∧ ¬Change.Spoils ⟨known, wanted.settled altgr, altgr, w⟩ key n := by
  unfold make
  dsimp only
  split_ifs with hs
  · have hno : ¬Change.Spoils ⟨known, wanted.settled altgr, altgr, w⟩ key n := fun h => by
      obtain ⟨m, hold, hnew⟩ := h.presses
      exact hold (hs ▸ hnew)
    rw [and_iff_left hno, hs]
    rfl
  · exact Draft.mem_down_run ⟨known, wanted.settled altgr, altgr, w⟩ key n

end Plan

end KeySynth
