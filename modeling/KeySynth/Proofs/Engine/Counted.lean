import KeySynth.Proofs.Engine.Closing
import KeySynth.Proofs.Engine.Restore
import KeySynth.Proofs.Engine.Tracking
import KeySynth.Proofs.Engine.Upkeep
import KeySynth.Proofs.Trigger.Level

/-!
The modifiers that hotkeys count as held.

Events above level zero move the counted modifiers together with the held ones; all others move the
held ones alone. Taps of the mask key leave both as they were, so a counted modifier is held unless
an event at level zero lets go of it, and the next send finds that out.
-/

namespace KeySynth

open Modifier

/-- Hotkeys count what events of this tag move. -/
def Tag.Counts (t : Tag) : Prop := t ≠ .ignore ∧ 0 < t.level

instance (t : Tag) : Decidable t.Counts := inferInstanceAs (Decidable (_ ∧ _))

lemma Tag.counts_ofLevel {level : UInt32} (h : level.toNat ≤ maxLevel) :
    (ofLevel level).Counts ↔ level ≠ 0 := by
  rw [Counts, level_ofLevel h, and_iff_right (ofLevel_ne_ignore h), Nat.cast_pos,
    Nat.pos_iff_ne_zero, Ne, Ne, ← UInt32.toNat_inj]
  rfl

/-- A key goes up that moves `m`, and not to be ignored by every hook. -/
def EventRecord.LetsGo (altgr : Bool) (m : Modifier) : EventRecord → Prop
  | .key k => k.up = true ∧ m ∈ Ledger.moved k.vk altgr ∧ k.info ≠ .ignore
  | .mouse _ | .delay _ => False

/-- What the event of a key is tagged with. -/
def EventRecord.Tagged (t : Tag) : EventRecord → Prop
  | .key k => k.info = t
  | .mouse _ | .delay _ => True

lemma Ledger.nonIgnored_noteKey (l : Ledger) (vk : VirtualKey) (up : Bool) (info : Tag)
    (altgr : Bool) : (l.noteKey vk up info altgr).nonIgnored =
      if info.Counts then l.nonIgnored.assign (moved vk altgr) !up else l.nonIgnored :=
  apply_ite (fun l : Ledger => l.nonIgnored) info.Counts _ _

namespace Run

variable {P : Type} [Platform P] {t : Tag} {counted : Mask} {r s : Run P}

/-- In a run of tag `t` what is counted is held, unless it was `counted` at the beginning and the
run, which is not counted itself, has let go of it. -/
structure Counted (t : Tag) (counted : Mask) (r : Run P) : Prop where
  tag : r.tag = t
  mask : PlainMask r.maskKey
  quiet : ¬t.Counts → r.ledger.nonIgnored = counted
  held : ∀ m ∈ r.ledger.nonIgnored, m ∈ r.ledger.logical ∨
    ¬t.Counts ∧ ∃ em ∈ r.journal, em.event.LetsGo r.altgr m

/-- An event that hooks are to ignore moves no counted modifier. -/
lemma nonIgnored_ignored (r : Run P) (vk : VirtualKey) (sc : ScanCode) (up : Bool) :
    (r.emitKey vk sc up .ignore).ledger.nonIgnored = r.ledger.nonIgnored := by
  rw [emitKey_eq, ledger_emit]
  exact (Ledger.nonIgnored_noteKey ..).trans (if_neg fun h => h.1 rfl)

lemma nonIgnored_emitModifier (r : Run P) (m : Modifier) (up : Bool) :
    (r.emitModifier m up).ledger.nonIgnored =
      if r.tag.Counts then r.ledger.nonIgnored.assign (m.drags r.altgr) !up
      else r.ledger.nonIgnored := by
  rw [emitModifier, emitKey_eq, ledger_emit]
  refine (Ledger.nonIgnored_noteKey ..).trans ?_
  rw [if_neg m.key_ne_zero, Ledger.moved_key]

namespace Counted

variable (h : r.Counted t counted)
include h

omit [Platform P] in
/-- Nothing that is held is let go of and nothing new is counted. -/
lemma congr (hs : s.still = r.still) (hc : s.ledger.nonIgnored = r.ledger.nonIgnored)
    (hl : ∀ m ∈ r.ledger.nonIgnored, m ∈ r.ledger.logical → m ∈ s.ledger.logical)
    (hj : ∀ em ∈ r.journal, em ∈ s.journal) : s.Counted t counted where
  tag := (still_tag hs).trans h.tag
  mask := still_maskKey hs ▸ h.mask
  quiet ht := hc.trans (h.quiet ht)
  held m hm := by
    rw [hc] at hm
    rw [still_altgr hs]
    refine (h.held m hm).imp (hl m hm) (And.imp_right ?_)
    rintro ⟨em, hem, hgo⟩
    exact ⟨em, hj em hem, hgo⟩

lemma pause (p : Pause) : (r.pause p).Counted t counted :=
  h.congr (r.still_pause p) (by rw [ledger_pause]) (by simp [ledger_pause])
    (by simp [journal_pause])

/-- An event of the run's own moves what is held and what is counted alike, if it is counted. -/
lemma emit (ht : t ≠ .ignore) {e : EventRecord} (he : e.Tagged t) :
    (r.emit e).Counted t counted := by
  have hs := r.still_emit e
  have hmem : ∀ em ∈ r.journal, em ∈ (r.emit e).journal := fun em hem => by
    rw [journal_emit]
    exact List.mem_cons_of_mem _ hem
  cases e with
  | mouse m =>
    exact h.congr hs (by rw [ledger_emit]; rfl) (fun _ _ => by rw [ledger_emit]; exact id) hmem
  | delay ms =>
    exact h.congr hs (by rw [ledger_emit]; rfl) (fun _ _ => by rw [ledger_emit]; exact id) hmem
  | key k =>
    have hinfo : k.info = t := he
    have hn : (r.emit (.key k)).ledger.nonIgnored = if t.Counts then
        r.ledger.nonIgnored.assign (Ledger.moved k.vk r.altgr) !k.up else r.ledger.nonIgnored := by
      rw [ledger_emit, ← hinfo]
      exact Ledger.nonIgnored_noteKey ..
    have hl : (r.emit (.key k)).ledger.logical =
        r.ledger.logical.assign (Ledger.moved k.vk r.altgr) !k.up := by
      rw [ledger_emit]
      exact Ledger.logical_noteKey ..
    refine ⟨(still_tag hs).trans h.tag, still_maskKey hs ▸ h.mask, fun hq => ?_, fun m hm => ?_⟩
    · rw [hn, if_neg hq, h.quiet hq]
    · rw [hn] at hm
      rw [hl, Mask.mem_assign, still_altgr hs]
      by_cases hcount : t.Counts
      · rw [if_pos hcount, Mask.mem_assign] at hm
        refine .inl ?_
        split_ifs at hm ⊢
        · exact hm
        · exact (h.held m hm).resolve_right fun hno => hno.1 hcount
      · rw [if_neg hcount] at hm
        rcases h.held m hm with hheld | ⟨-, em, hem, hgo⟩
        · by_cases hmv : m ∈ Ledger.moved k.vk r.altgr ∧ k.up = true
          · refine .inr ⟨hcount, ⟨.key k, r.ledger.logical⟩, ?_, hmv.2, hmv.1, hinfo ▸ ht⟩
            rw [journal_emit]
            exact List.mem_cons_self
          · refine .inl ?_
            split_ifs with hmoved
            · simpa using fun hup => hmv ⟨hmoved, hup⟩
            · exact hheld
        · exact .inr ⟨hcount, em, hmem em hem, hgo⟩

lemma emitKey (ht : t ≠ .ignore) (vk : VirtualKey) (sc : ScanCode) (up : Bool) :
    (r.emitKey vk sc up r.tag).Counted t counted :=
  h.emit ht h.tag

/-- A tap of the mask key, while what it moves is up, leaves all as it was. -/
lemma maskTap (hup : ¬r.maskHeld = true) : r.maskDown.maskUp.Counted t counted := by
  have hmask : r.maskDown.maskKey = r.maskKey := still_maskKey (r.still_emitKey _ _ _ _)
  refine h.congr ((still_emitKey _ _ _ _ _).trans (r.still_emitKey _ _ _ _)) ?_ (fun m _ hm => ?_)
    fun em hem => ?_
  · rw [maskUp, nonIgnored_ignored, maskDown, nonIgnored_ignored]
  · exact (mem_tap h.mask.1).mpr ⟨hm, not_mem_moved h.mask hup (.inl hm)⟩
  · rw [maskUp, maskDown, emitKey_eq, emitKey_eq, journal_emit, journal_emit]
    exact List.mem_cons_of_mem _ (List.mem_cons_of_mem _ hem)

/-- The same of a Win or Alt key that is pressed within a tap. -/
lemma maskRound (hup : ¬r.maskHeld = true) {m : Modifier} (hm : m ∈ Mask.win ∪ Mask.alt)
    (hd : m.drags r.altgr = {m}) :
    (r.maskDown.emitModifier m false).maskUp.Counted t counted := by
  have hsd : r.maskDown.still = r.still := r.still_emitKey _ _ _ _
  have hs : (r.maskDown.emitModifier m false).maskUp.still = r.still :=
    (still_emitKey _ _ _ _ _).trans ((still_emitKey _ _ _ _ _).trans hsd)
  have hn : (r.maskDown.emitModifier m false).maskUp.ledger.nonIgnored =
      if t.Counts then r.ledger.nonIgnored.assign {m} true else r.ledger.nonIgnored := by
    rw [maskUp, nonIgnored_ignored, nonIgnored_emitModifier, still_tag hsd, h.tag,
      still_altgr hsd, hd, maskDown, nonIgnored_ignored]
    rfl
  refine ⟨(still_tag hs).trans h.tag, still_maskKey hs ▸ h.mask, fun hq => ?_, fun n hmem => ?_⟩
  · rw [hn, if_neg hq, h.quiet hq]
  · have hor : n ∈ r.ledger.nonIgnored ∨ n = m := by
      rw [hn] at hmem
      split_ifs at hmem
      · rw [Mask.mem_assign] at hmem
        split_ifs at hmem with hnm
        · exact .inr (Mask.mem_singleton.mp hnm)
        · exact .inl hmem
      · exact .inl hmem
    rw [mem_tapRound h.mask.1, hd, Mask.mem_singleton, still_altgr hs]
    rcases hor with hn | rfl
    · refine (h.held n hn).imp (fun hl => ⟨.inl hl, not_mem_moved h.mask hup (.inl hl)⟩)
        (And.imp_right ?_)
      rintro ⟨em, hem, hgo⟩
      refine ⟨em, ?_, hgo⟩
      rw [maskUp, maskDown, emitModifier, emitKey_eq, emitKey_eq, emitKey_eq, journal_emit,
        journal_emit, journal_emit]
      exact List.mem_cons_of_mem _ (List.mem_cons_of_mem _ (List.mem_cons_of_mem _ hem))
    · exact .inl ⟨.inr rfl, not_mem_moved h.mask hup (.inr hm)⟩

omit [Platform P] in
/-- A mask key that is no Win or Alt key is up when one of those is all that is down. -/
lemma not_maskHeld {m : Modifier} (hb : r.releaseIsBare m = true) : ¬r.maskHeld = true := by
  simp only [releaseIsBare, Bool.and_eq_true, decide_eq_true_eq, beq_iff_eq] at hb
  obtain ⟨⟨⟨⟨hm, -⟩, -⟩, -⟩, hall⟩ := hb
  intro hheld
  obtain ⟨n, hn, hmask⟩ := Mask.meets_iff.mp hheld
  have hnm : n = m := by
    by_contra hne
    exact Mask.eq_empty_iff.mp hall n (Mask.mem_sdiff.mpr ⟨hn, by simpa using hne⟩)
  exact h.mask.2 n hmask (hnm ▸ hm)

lemma reconcile (ht : t ≠ .ignore) (desired : Mask) (w : Disguise) :
    (r.reconcile desired w).Counted t counted := by
  have key := r.playing_induction (I := fun _ s => s.Counted t counted ∧ s.altgr = r.altgr) ⟨h, rfl⟩
    (fun _ _ m hs => ⟨hs.1.emitKey ht .., (still_altgr (still_emitKey ..)).trans hs.2⟩)
    (fun _ _ m hs => ⟨hs.1.emitKey ht .., (still_altgr (still_emitKey ..)).trans hs.2⟩)
    ?tap ?round (Plan.orderly_make desired r.ledger.logical r.altgr w)
  · obtain ⟨s, hs, hcounted, -⟩ := key
    unfold Run.reconcile playSteps
    dsimp only
    rw [hs]
    split_ifs
    · exact h
    · exact hcounted
    · exact hcounted.pause _
  case tap =>
    intro _ s hs
    split_ifs with hup
    · exact hs
    · have hstill : s.maskDown.maskUp.still = s.still :=
        (still_emitKey ..).trans (still_emitKey ..)
      exact ⟨hs.1.maskTap hup, (still_altgr hstill).trans hs.2⟩
  case round =>
    intro _ s m hm hd hs
    split_ifs with hup
    · exact ⟨hs.1.emitKey ht .., (still_altgr (still_emitKey ..)).trans hs.2⟩
    · exact ⟨hs.1.maskRound hup hm (hs.2 ▸ hd), (still_altgr ((still_emitKey ..).trans
        ((still_emitKey ..).trans (still_emitKey ..)))).trans hs.2⟩

lemma strike (ht : t ≠ .ignore) (motion : KeyMotion) (vk : VirtualKey) (sc : ScanCode) :
    (r.strike motion vk sc).Counted t counted := by
  cases motion with
  | down => exact h.emitKey ht ..
  | up => exact h.emitKey ht ..
  | downUp =>
    exact ((h.emitKey ht vk sc false).pause _).emit (e := keyEvent _ vk sc true r.tag) ht h.tag

end Counted

/-- All that a token may do keeps what is counted in line with what is held. -/
lemma upkeep_counted (ht : t ≠ .ignore) (counted : Mask) :
    Upkeep (fun _ _ _ => True) (fun _ => True) (Counted (P := P) t counted) where
  stroke _ h := h.strike ht ..
  unit _ _ h := h.emit ht h.tag
  mouse _ h := h.emit ht trivial
  pause p h := h.pause p
  reconcile w _ h := h.reconcile ht _ w
  tap _ hb h := h.maskTap (h.not_maskHeld hb)
  note e _ h := by
    refine ⟨h.tag, h.mask, fun hq => ?_, fun m hm => ?_⟩
    · exact (by cases e <;> rfl : _ = _).trans (h.quiet hq)
    · cases e <;> exact h.held m hm
  session _ _ _ h := ⟨h.tag, h.mask, h.quiet, h.held⟩

end Run

/-- What may happen to an engine between its making and now. -/
inductive Deed (P : Type) where
  | send (text : String) (o : SendOptions)
  | setLevel (level : UInt32)
  /-- The system changes by itself. -/
  | meanwhile (change : P → P)

/-- Nothing is sent. -/
def Deed.Idle {P : Type} : Deed P → Prop
  | .send text _ => text = ""
  | .setLevel _ | .meanwhile _ => True

namespace Engine

variable {P : Type} [Platform P]

/-- The engine after a deed; a level that is refused changes nothing. -/
def does (e : Engine P) : Deed P → Engine P
  | .send text o => (e.send text o).2
  | .setLevel level =>
    match e.setSendLevel level with
    | .ok e' => e'
    | .error _ => e
  | .meanwhile change => { e with platform := change e.platform }

def after (e : Engine P) (ds : List (Deed P)) : Engine P := ds.foldl does e

/-- The text is sent at level zero and lets go of `m`, which was counted and down before. -/
structure Forgets (e : Engine P) (ts : List Token) (o : SendOptions) (m : Modifier) : Prop where
  level : e.settings.sendLevel = 0
  counted : m ∈ e.ledger.nonIgnored
  down : Platform.isDown e.platform m.key = true
  released : ∃ em ∈ (e.sendRun ts o).journal, em.event.LetsGo (e.sendRun ts o).altgr m

/-- The mask key is no Win or Alt key, and events are tagged as those of a level. -/
structure Levelled (e : Engine P) : Prop where
  mask : PlainMask e.maskKey
  level : e.settings.sendLevel.toNat ≤ Tag.maxLevel

namespace Levelled

variable {e : Engine P} (h : e.Levelled)
include h

lemma counted_opened (ts : List Token) (o : SendOptions) :
    (e.opened ts o).Counted (.ofLevel e.settings.sendLevel)
      (e.ledger.nonIgnored ∩ heldDown e.platform) :=
  ⟨rfl, h.mask, fun _ => rfl, fun _ hm => .inl (Mask.mem_inter.mp hm).2⟩

/-- A send leaves held what it leaves counted, unless it forgets to take it from the counted. -/
theorem held_sendRun {ts : List Token} {o : SendOptions} {m : Modifier}
    (hm : m ∈ (e.sendRun ts o).ledger.nonIgnored) :
    m ∈ (e.sendRun ts o).ledger.logical ∨ e.Forgets ts o m := by
  have htyped := (typed_upkeep (Run.upkeep_counted (Tag.ofLevel_ne_ignore h.level) _) trivial
    (fun t _ => Run.heeds_any t) (h.counted_opened ts o)).2
  have hopen : ∀ n ∈ e.resync.ledger.nonIgnored, n ∈ e.resync.ledger.logical := fun _ hn =>
    (Mask.mem_inter.mp hn).2
  cases e.closes_sendRun ts o with
  | kept hledger hjournal =>
    have haltgr : (e.sendRun ts o).altgr = (e.typed ts o).altgr :=
      (e.altgr_sendRun ts o).trans (Run.fixed_altgr fixed_typed).symm
    rw [hledger] at hm ⊢
    refine (htyped.held m hm).imp_right fun ⟨hquiet, hgone⟩ => ?_
    have hmem : m ∈ e.ledger.nonIgnored ∩ heldDown e.platform := htyped.quiet hquiet ▸ hm
    rw [Mask.mem_inter, mem_heldDown] at hmem
    rw [Tag.counts_ofLevel h.level, not_not] at hquiet
    exact ⟨hquiet, hmem.1, hmem.2, by rwa [hjournal, haltgr]⟩
  | undone hholds =>
    left
    have hn : (e.sendRun ts o).ledger.nonIgnored = _ := congrArg (·.nonIgnored) hholds
    have hl : (e.sendRun ts o).ledger.logical = _ := congrArg (·.logical) hholds
    rw [hn] at hm
    rw [hl]
    exact hopen m hm
  | reread hledger =>
    rw [hledger] at hm ⊢
    exact .inl (Mask.mem_inter.mp hm).2

/-- No deed changes what the mask key is, or lets a level be set that is none. -/
lemma does (d : Deed P) : (e.does d).Levelled := by
  cases d with
  | meanwhile change => exact ⟨h.mask, h.level⟩
  | setLevel level =>
    unfold Engine.does setSendLevel
    dsimp only
    by_cases hmax : Tag.maxLevel < level.toNat
    · rw [if_pos hmax]
      exact h
    · rw [if_neg hmax]
      exact ⟨h.mask, Nat.not_lt.mp hmax⟩
  | send text o =>
    unfold Engine.does send
    dsimp only
    split_ifs
    · exact h
    · have hf := e.fixed_sendRun (Token.ofText o.raw text) o
      have hmask : (e.sendRun (Token.ofText o.raw text) o).maskKey = e.maskKey :=
        Run.fixed_maskKey hf
      have hset : (e.sendRun (Token.ofText o.raw text) o).settings = e.settings :=
        congrArg (·.settings) hf
      exact ⟨hmask ▸ h.mask, hset ▸ h.level⟩

lemma after (ds : List (Deed P)) : (e.after ds).Levelled :=
  List.foldlRecOn ds _ h fun _ hs d _ => hs.does d

end Levelled

variable {e : Engine P}

/-- A deed that sends nothing leaves the ledger alone. -/
lemma ledger_does_of_idle {d : Deed P} (hd : d.Idle) : (e.does d).ledger = e.ledger := by
  cases d with
  | meanwhile change => rfl
  | setLevel level =>
    unfold does setSendLevel
    dsimp only
    by_cases hmax : Tag.maxLevel < level.toNat
    · rw [if_pos hmax]
    · rw [if_neg hmax]
  | send text o =>
    obtain rfl : text = "" := hd
    have hnil : (Token.ofText o.raw "").isEmpty = true := by
      cases o.raw <;> simp [Token.ofText, Token.ofChars]
    unfold does send
    dsimp only
    rw [if_pos hnil]

/-- A text that is sent is typed. -/
lemma does_send {text : String} {o : SendOptions} (h : ¬(Deed.send text o : Deed P).Idle) :
    e.does (.send text o) = (e.sendRun (Token.ofText o.raw text) o).toEngine := by
  have hts : ¬(Token.ofText o.raw text).isEmpty = true := fun hnil =>
    h (Token.ofText_eq_nil (List.isEmpty_iff.mp hnil))
  unfold does send
  dsimp only
  rw [if_neg hts]
  rfl

lemma after_concat (e : Engine P) (ds : List (Deed P)) (d : Deed P) :
    e.after (ds ++ [d]) = (e.after ds).does d := List.foldl_concat ..

/-- **What hotkeys count as held is held**, whatever has been sent, at whatever levels and however
it went, and whatever has happened to the system in between. Only if the last text was sent at
level zero and has itself let go of a modifier that was counted before it, that one may still be
counted. -/
theorem counted_held {p : P} {s : Settings} (hlevel : s.sendLevel.toNat ≤ Tag.maxLevel)
    (ds : List (Deed P)) {m : Modifier}
    (hm : m ∈ ((Engine.new p s).after ds).ledger.nonIgnored) :
    m ∈ ((Engine.new p s).after ds).ledger.logical ∨
      ∃ before text o rest, ds = before ++ .send text o :: rest ∧ (∀ d ∈ rest, d.Idle) ∧
        ((Engine.new p s).after before).Forgets (Token.ofText o.raw text) o m := by
  have hnew : (Engine.new p s).Levelled := ⟨plainMask_lcontrol, hlevel⟩
  induction ds using List.reverseRecOn with
  | nil => exact absurd hm (Mask.not_mem_empty m)
  | append_singleton ds d ih =>
    rw [after_concat] at hm ⊢
    by_cases hidle : d.Idle
    · rw [ledger_does_of_idle hidle] at hm ⊢
      refine (ih hm).imp_right ?_
      rintro ⟨before, text, o, rest, rfl, hrest, hforgets⟩
      refine ⟨before, text, o, rest ++ [d], by simp, fun d' hd' => ?_, hforgets⟩
      rcases List.mem_append.mp hd' with hd' | hd'
      · exact hrest d' hd'
      · exact List.mem_singleton.mp hd' ▸ hidle
    · cases d with
      | meanwhile change => exact absurd trivial hidle
      | setLevel level => exact absurd trivial hidle
      | send text o =>
        rw [does_send hidle] at hm ⊢
        refine ((hnew.after ds).held_sendRun hm).imp_right fun hforgets => ?_
        exact ⟨ds, text, o, [], rfl, nofun, hforgets⟩

/-- A Control key that was put down at level one and is let go of at level zero is still counted. -/
theorem counted_held_of_levelZero :
    let ds : List (Deed Desktop) := [.setLevel 1, .send "{LCtrl down}" .plain, .setLevel 0,
      .send "{LCtrl up}" .plain]
    let e := (Engine.new Desktop.new {}).after ds
    lctrl ∈ e.ledger.nonIgnored ∧ (lctrl ∈ e.ledger.logical ∨
      ∃ before text o rest, ds = before ++ .send text o :: rest ∧ (∀ d ∈ rest, d.Idle) ∧
        ((Engine.new Desktop.new {}).after before).Forgets (Token.ofText o.raw text) o lctrl) := by
  intro ds e
  have hcounted : lctrl ∈ e.ledger.nonIgnored := by decide +kernel
  exact ⟨hcounted, counted_held (by decide) ds hcounted⟩

/-- What is counted need not be held. -/
theorem counted_not_held :
    ¬∀ (p : Desktop) (s : Settings) (ds : List (Deed Desktop)), s.sendLevel.toNat ≤ Tag.maxLevel →
      ((Engine.new p s).after ds).ledger.nonIgnored ⊆
        ((Engine.new p s).after ds).ledger.logical := by
  intro h
  have hsub := h Desktop.new {} [.setLevel 1, .send "{LCtrl down}" .plain, .setLevel 0,
    .send "{LCtrl up}" .plain] (by decide)
  exact absurd hsub (by decide +kernel)

end Engine

end KeySynth
