import KeySynth.Proofs.Engine.Arrival
import KeySynth.Proofs.Engine.Quiet
import KeySynth.Proofs.Engine.Tracking
import KeySynth.Proofs.Engine.Upkeep
import KeySynth.Proofs.Modifier.Thrift

/-!
A modifier that is kept down is left alone.

On a layout without AltGr no token touches a modifier that is down and is to be kept so, as long as
the text does not name its key: every plan starts and ends with it down, the mask key is not tapped
while it moves a modifier that is down, and no release is bare while another modifier is held.
-/

namespace KeySynth

open Modifier Recorder

namespace EventRecord

/-- The event does not move the key of `m`, in whatever form it travels. -/
structure Spares (m : Modifier) (e : EventRecord) : Prop where
  sided : e.Sided
  other : ∀ up, ¬e.IsKey m up

lemma spares_mouse (m : Modifier) (k : MouseRecord) : (mouse k).Spares m := ⟨trivial, fun _ h => h⟩

lemma Spares.not_mem_moved {m : Modifier} {k : KeyRecord} (h : (key k).Spares m) :
    m ∉ Ledger.moved k.vk false := by
  rw [Ledger.mem_moved]
  rintro (hv | ⟨hf, -, -⟩)
  · exact h.other k.up ⟨hv, rfl⟩
  · cases hf

end EventRecord

/-- On a desktop without AltGr such an event leaves the key as it is. -/
lemma Desktop.isDown_apply_carried {d : Desktop} (ha : d.altgr = false) {m : Modifier}
    {e : EventRecord} (h : e.Spares m) (b : Backend) :
    (d.apply (e.carried b)).isDown m.key = d.isDown m.key := by
  cases e with
  | key k =>
    have hdown := mem_down_apply_carried (d := d) h.sided b m
    rw [ha, if_neg h.not_mem_moved] at hdown
    rw [isDown, isDown, (d.apply_eq _).2.1, decide_eq_decide.mpr hdown]
  | mouse k => exact keys_isDown (keys_apply_mouse d k) m.key
  | delay ms => rfl

lemma Desktop.isDown_foldl_carried {d : Desktop} (ha : d.altgr = false) {m : Modifier}
    {b : Backend} {es : List EventRecord}
    (h : ∀ e ∈ es, ∃ e₀ : EventRecord, e₀.carried b = e ∧ e₀.Spares m) :
    (es.foldl apply d).isDown m.key = d.isDown m.key := by
  induction es generalizing d with
  | nil => rfl
  | cons e es ih =>
    obtain ⟨e₀, rfl, hs⟩ := h e (by simp)
    have ha' : (d.apply (e₀.carried b)).altgr = false := (d.apply_eq _).1.trans ha
    have hrest := ih ha' fun e he => h e (by simp [he])
    exact hrest.trans (isDown_apply_carried ha hs b)

/-- The modifier that a directive names by its key on the board. -/
def Token.named? : Token → Option Modifier
  | .key (.named (.key vk sc)) _ => ofKey? (if vk = 0 then sc.key else vk)
  | _ => none

lemma Token.sided_of_named? {t : Token} (h : t.named? = none) : t.Sided := by
  match t with
  | .key (.named (.key vk sc)) a =>
    intro m hk
    cases h.symm.trans hk
  | .key (.named (.mouse b)) a | .key (.char c) a => trivial
  | .char _ | .asc _ | .modifier _ | .click _ | .raw | .text | .blind _ | .unicode _
  | .invalidUnicode _ | .unknown _ => trivial

namespace Bench

/-- Nothing is set by hand but how much of a batch is taken, and the layout has no AltGr. -/
structure Plain (b : Bench) : Prop where
  layout : b.layout = none
  altgrLayouts : b.altgrLayouts = []
  chords : b.chords = []
  altgr : b.desktop.altgr = false

/-- What is set by hand. -/
def setting (b : Bench) : Option Nat × Option LayoutId × List LayoutId × List (Char × Chord) :=
  (b.limit, b.layout, b.altgrLayouts, b.chords)

end Bench

namespace Run

/-! ### What is set by hand stays -/

lemma setting_emit (r : Run Bench) (e : EventRecord) :
    (r.emit e).platform.setting = r.platform.setting := by
  cases hb : r.batch with
  | some b => rw [platform_emit_of_some hb]
  | none => rcases platform_emit_of_none hb e with hp | hp <;> rw [hp] <;> rfl

lemma setting_pause (r : Run Bench) (p : Pause) :
    (r.pause p).platform.setting = r.platform.setting := by
  cases p with
  | mark ms =>
    unfold Run.pause emitMark
    dsimp only
    split <;> rfl
  | none | sleep ms | wait ms => rfl

lemma setting_flush (r : Run Bench) : r.flush.platform.setting = r.platform.setting := by
  have hinject : ∀ {es res q}, Platform.inject r.platform es = (res, q) →
      q.setting = r.platform.setting := fun h => (Prod.mk.inj h).2 ▸ rfl
  have hplay : ∀ {es res q}, Platform.play r.platform es = (res, q) →
      q.setting = r.platform.setting := fun h => (Prod.mk.inj h).2 ▸ rfl
  unfold flush
  split
  · rfl
  · dsimp only
    split_ifs
    · rfl
    · rfl
    · split <;> exact hplay ‹_›
    · split
      · split_ifs <;> exact hinject ‹_›
      · exact hinject ‹_›

lemma setting_discard (r : Run Bench) : r.discard.platform.setting = r.platform.setting := by
  unfold discard
  split <;> rfl

/-! ### The guard -/

/-- Events that leave the key of `m` alone are what strokes of such keys come to. -/
def SparedKey (m : Modifier) : StrokeLaw := fun _ vk sc =>
  SidedKey vk sc ∧ ofKey? (if vk = 0 then sc.key else vk) ≠ some m

lemma spares_keyEvent {m : Modifier} {motion : KeyMotion} {vk : VirtualKey} {sc : ScanCode}
    (h : SparedKey m motion vk sc) (r : Run Bench) (up : Bool) (info : Tag) :
    (r.keyEvent vk sc up info).Spares m :=
  ⟨r.sided_keyEvent h.1 up info, fun _ hk => h.2 (by simpa only [keyAt_eq] using hk.1)⟩

section

variable {P : Type} {m n : Modifier} {r : Run P}

/-- What is said of one modifier makes no difference to another. -/
lemma mem_persistent_noteExplicit (e : Explicit) (hn : n ≠ m) (h : m ∈ r.ledger.persistent) :
    m ∈ (r.noteExplicit n e).ledger.persistent := by
  cases e with
  | down => exact Mask.mem_union.mpr (.inl h)
  | downRemapped => exact h
  | up => exact Mask.mem_sdiff.mpr ⟨h, fun he => hn (Mask.mem_singleton.mp he).symm⟩

lemma mem_blindBase_noteExplicit (e : Explicit) (hn : n ≠ m) (h : m ∈ r.blindBase) :
    m ∈ (r.noteExplicit n e).blindBase := by
  have hdown : m ∈ if r.blind then r.blindBase ∪ {n} else r.blindBase := by
    split_ifs
    · exact Mask.mem_union.mpr (.inl h)
    · exact h
  cases e with
  | down | downRemapped => exact hdown
  | up => exact Mask.mem_sdiff.mpr ⟨h, fun he => hn (Mask.mem_singleton.mp he).symm⟩

end

/-- `m` is down and kept so, and no event has moved its key. -/
structure Guards (m : Modifier) (r : Run Bench) : Prop where
  altgr : r.altgr = false
  mask : r.maskKey.1 ≠ 0 ∧ SidedKey r.maskKey.1 r.maskKey.2
  chords : r.platform.chords = []
  kept : m ∈ r.kept
  logical : m ∈ r.ledger.logical
  journal : ∀ em ∈ r.journal, em.event.Spares m ∧ m ∈ em.held

namespace Guards

variable {m : Modifier} {r s : Run Bench} (h : r.Guards m)
include h

lemma emit {e : EventRecord} (he : e.Spares m) : (r.emit e).Guards m where
  altgr := (still_altgr (r.still_emit e)).trans h.altgr
  mask := still_maskKey (r.still_emit e) ▸ h.mask
  chords := (congrArg (·.2.2.2) (r.setting_emit e)).trans h.chords
  kept := still_kept (r.still_emit e) ▸ h.kept
  logical := by
    rw [ledger_emit, h.altgr]
    cases e with
    | key k =>
      rw [Ledger.note, Ledger.logical_noteKey, Mask.mem_assign, if_neg he.not_mem_moved]
      exact h.logical
    | mouse k => exact h.logical
    | delay ms => exact h.logical
  journal em hem := by
    rw [journal_emit] at hem
    rcases List.mem_cons.mp hem with rfl | hem
    · exact ⟨he, h.logical⟩
    · exact h.journal em hem

lemma pause (p : Pause) : (r.pause p).Guards m where
  altgr := (still_altgr (r.still_pause p)).trans h.altgr
  mask := still_maskKey (r.still_pause p) ▸ h.mask
  chords := (congrArg (·.2.2.2) (r.setting_pause p)).trans h.chords
  kept := still_kept (r.still_pause p) ▸ h.kept
  logical := by
    rw [ledger_pause]
    exact h.logical
  journal := by
    rw [journal_pause]
    exact h.journal

lemma flows (hf : Flows (EventRecord.Spares m) r s) : s.Guards m :=
  hf.invariant (fun _ _ he hs => hs.emit he) (fun _ p _ hs => hs.pause p) h

lemma emitModifier {n : Modifier} (hn : n ≠ m) (up : Bool) : (r.emitModifier n up).Guards m :=
  h.emit ⟨r.sided_keyEvent (sidedKey_modifier n) up _, fun _ hk => hn (isKey_keyEvent.mp hk).1.symm⟩

omit h in
/-- The mask key goes down or up while it moves another key. -/
lemma emitMask (h : r.Guards m) (hk : SparedKey m .downUp r.maskKey.1 r.maskKey.2) (up : Bool) :
    (r.emitKey r.maskKey.1 r.maskKey.2 up .ignore).Guards m ∧
      (r.emitKey r.maskKey.1 r.maskKey.2 up .ignore).maskKey = r.maskKey :=
  ⟨h.emit (spares_keyEvent hk r up _), still_maskKey (r.still_emitKey _ _ _ _)⟩

/-- The mask key is only tapped while it moves nothing that is down. -/
lemma sparedKey_mask (hh : ¬r.maskHeld = true) :
    SparedKey m .downUp r.maskKey.1 r.maskKey.2 := by
  have hup := Mask.meets_eq_false.mp (Bool.not_eq_true _ ▸ hh : r.maskHeld = false)
  refine ⟨h.mask.2, fun hk => ?_⟩
  rw [if_neg h.mask.1] at hk
  exact hup m h.logical (Mask.mem_ofKey.mpr hk)

lemma tap (hh : ¬r.maskHeld = true) : r.maskDown.maskUp.Guards m := by
  have hk := h.sparedKey_mask hh
  obtain ⟨hdown, hm⟩ := h.emitMask hk false
  exact (hdown.emitMask (hm.symm ▸ hk) true).1

lemma tapRound (hh : ¬r.maskHeld = true) {n : Modifier} (hn : n ≠ m) :
    (r.maskDown.emitModifier n false).maskUp.Guards m := by
  have hk := h.sparedKey_mask hh
  obtain ⟨hdown, hm⟩ := h.emitMask hk false
  have hin := hdown.emitModifier hn false
  have hm' : (r.maskDown.emitModifier n false).maskKey = r.maskKey :=
    (still_maskKey (still_emitKey _ _ _ _ _)).trans hm
  exact (hin.emitMask (hm'.symm ▸ hk) true).1

/-- Plans that keep the modifier do not touch it. -/
lemma reconcile {desired : Mask} (hm : m ∈ desired) (w : Disguise) :
    (r.reconcile desired w).Guards m := by
  have hplan := Plan.steady_make h.logical hm w
  rw [← h.altgr] at hplan
  exact r.reconcile_of_moves (I := Guards m) (C := (· ≠ m))
    (fun st hst n hn he => hplan st hst (he ▸ hn)) (fun s n up hn hs => hs.emitModifier hn up)
    (fun s hh hs => hs.tap hh) (fun s n hn hh hs => hs.tapRound hh hn) (fun s hs => hs.pause _) h

/-- No release of another modifier is bare. -/
lemma not_releaseIsBare {n : Modifier} (hn : n ≠ m) : ¬r.releaseIsBare n = true := by
  intro hbare
  simp only [releaseIsBare, Bool.and_eq_true, beq_iff_eq] at hbare
  have hmem : m ∈ r.ledger.logical \ {n} :=
    Mask.mem_sdiff.mpr ⟨h.logical, fun he => hn (Mask.mem_singleton.mp he).symm⟩
  rw [hbare.2] at hmem
  exact Mask.not_mem_empty m hmem

lemma noteExplicit {n : Modifier} (e : Explicit) (hn : n ≠ m) : (r.noteExplicit n e).Guards m where
  altgr := h.altgr
  mask := h.mask
  chords := h.chords
  kept := Mask.mem_union.mpr ((Mask.mem_union.mp h.kept).imp (mem_persistent_noteExplicit e hn)
    (mem_blindBase_noteExplicit e hn))
  logical := by cases e <;> exact h.logical
  journal := h.journal

end Guards

/-- **A modifier that is kept down is guarded by all that tokens do.** -/
theorem upkeep_guards (m : Modifier) : Upkeep (SparedKey m) (· ≠ m) (Guards m) where
  stroke {r motion _ _} hK h := h.flows ((Flows.refl r).strike motion fun t up =>
    spares_keyEvent hK t up _)
  unit _ _ h := h.emit ⟨fun _ hm => (nomatch hm), fun _ hk => (nomatch hk.1)⟩
  mouse k h := h.emit (EventRecord.spares_mouse m k)
  pause p h := h.pause p
  reconcile w hd h :=
    h.reconcile (Mask.subset_iff.mp hd m (Mask.mem_inter.mpr ⟨h.kept, h.logical⟩)) w
  tap hn hbare h := absurd hbare (h.not_releaseIsBare hn)
  note e hn h := h.noteExplicit e hn
  session _ _ _ h := ⟨h.altgr, h.mask, h.chords, h.kept, h.logical, h.journal⟩

lemma sparedKey_zero {m : Modifier} {motion : KeyMotion} {vk : VirtualKey} (h0 : vk ≠ 0)
    (hk : ofKey? vk = none) : SparedKey m motion vk 0 :=
  ⟨sidedKey_zero vk, by rw [if_neg h0, hk]; exact nofun⟩

lemma resolved_eq (r : Run Bench) (vk : VirtualKey) (sc : ScanCode) :
    r.resolved vk sc = if vk = 0 then sc.key else vk := by
  simp only [resolved, keyAt_eq]

/-- A token that does not name the modifier strikes other keys only. -/
lemma heeds_guards {m : Modifier} {t : Token} (hs : t.Sided) (hn : t.named? ≠ some m)
    (hd : ∀ ds, t = .asc ds → ∀ c ∈ ds.toList, c.isDigit = true) :
    Heeds (SparedKey m) (· ≠ m) (Guards m) t := by
  have htyping : ∀ {motion} {vk : VirtualKey}, vk.Typing → SparedKey m motion vk 0 :=
    fun hvk => sparedKey_zero hvk.ne_zero hvk.ofKey?
  have hchar : ∀ motion, CharLaw (SparedKey m) (Guards m) motion := fun motion =>
    ⟨htyping (by decide), htyping (by decide), fun {r c k} hr hk => by
      have hk : (r.platform.chords.lookup c).or (Desktop.chord? c r.layout) = some k := hk
      rw [hr.chords] at hk
      exact htyping (Desktop.typing_chord? hk)⟩
  match t with
  | .char c => exact hchar _
  | .key (.char c) a => exact hchar _
  | .key (.named (.mouse b)) a => exact trivial
  | .key (.named (.key vk sc)) a =>
    intro r _
    have hres := r.resolved_eq vk sc
    have hsame : (if r.resolved vk sc = 0 then sc.key else r.resolved vk sc) =
        r.resolved vk sc := by
      rw [hres]
      split_ifs <;> simp_all
    have hother : ofKey? (r.resolved vk sc) ≠ some m := by rwa [hres]
    refine ⟨⟨fun n hk => hs n ?_, by rwa [hsame]⟩, fun n hk he => hother (he ▸ hk)⟩
    rwa [hsame, hres] at hk
  | .asc ds =>
    exact ⟨sparedKey_zero (by decide) (by decide), fun c hc =>
      htyping (.of_digit (hd ds rfl c hc))⟩
  | .modifier _ | .click _ | .raw | .text | .blind _ | .unicode _ | .invalidUnicode _
  | .unknown _ => exact trivial

/-- Whatever part of such events gets through, the key stays as it was. -/
lemma isDown_of_sublist {m : Modifier} {d : Desktop} (ha : d.altgr = false) {r : Run Bench}
    (hj : ∀ em ∈ r.journal, em.event.Spares m) {es : List EventRecord} (hes : es.Sublist r.sent) :
    (es.foldl Desktop.apply d).isDown m.key = d.isDown m.key := by
  refine Desktop.isDown_foldl_carried ha (b := r.backend) fun e he => ?_
  obtain ⟨em, hem, rfl⟩ := List.mem_map.mp (hes.subset he)
  exact ⟨em.event, rfl, hj em (List.mem_reverse.mp hem)⟩

end Run

/-! ### A whole send -/

namespace Engine

variable {e : Engine Bench} {ts : List Token} {o : SendOptions} {m : Modifier}

/-- A mask key that moves its modifier, if it moves one, by either of its codes. -/
def SidedMask (e : Engine Bench) : Prop := e.maskKey.1 ≠ 0 ∧ SidedKey e.maskKey.1 e.maskKey.2

lemma guards_opened (hplain : e.platform.Plain) (hcache : e.Truthful) (hmask : e.SidedMask)
    (hdown : Platform.isDown e.platform m.key = true) (hkept : m ∈ (e.opened ts o).kept) :
    (e.opened ts o).Guards m where
  altgr := ((hcache.altgr_opened ts o).trans
    (Bench.hasAltGr_focused hplain.layout hplain.altgrLayouts _)).trans hplain.altgr
  mask := hmask
  chords := hplain.chords
  kept := hkept
  logical := mem_heldDown.mpr hdown
  journal := nofun

/-- What a run leaves of a modifier that it keeps down. -/
structure Spared (m : Modifier) (r : Run Bench) : Prop where
  journal : ∀ em ∈ r.journal, em.event.Spares m ∧ m ∈ em.held
  logical : m ∈ r.ledger.logical
  down : Platform.isDown r.platform m.key = true

/-- **A modifier that a send keeps down is left alone**, however much of it gets through. -/
theorem spared_sendRun (hplain : e.platform.Plain) (hcache : e.Truthful) (hmask : e.SidedMask)
    (hdown : Platform.isDown e.platform m.key = true) (hkept : m ∈ (e.opened ts o).kept)
    (hsided : ∀ t ∈ ts, t.Sided) (hnamed : ∀ t ∈ ts, t.named? ≠ some m)
    (hdigits : ∀ ds, .asc ds ∈ ts → ∀ c ∈ ds.toList, c.isDigit = true) :
    Spared m (e.sendRun ts o) := by
  obtain ⟨hup, htyped⟩ := typed_upkeep (Run.upkeep_guards m)
    (Run.sparedKey_zero (by decide) (by decide))
    (fun t ht => Run.heeds_guards (hsided t ht) (hnamed t ht) fun ds hds => hdigits ds (hds ▸ ht))
    (guards_opened hplain hcache hmask hdown hkept)
  have hjournal : ∀ em ∈ (e.sendRun ts o).journal, em.event.Spares m ∧ m ∈ em.held := by
    obtain ⟨s, p, l, b, hs, he⟩ := (e.upTo ts o ts).leave_eq (e.opened ts o).storesCapsLock
    rw [sendRun_eq, he]
    rcases hs with rfl | rfl
    · exact hup.journal
    · exact htyped.journal
  have hend : ∃ l : Ledger, m ∈ l.logical ∧
      Run.Lands e.platform.desktop e.resync.ledger.snapshot l (e.sendRun ts o) :=
    (lands_sendRun ts o).elim (fun h => ⟨_, hup.logical, h⟩) fun h => ⟨_, htyped.logical, h⟩
  obtain ⟨l, hl, hland⟩ := hend
  have hafter : Platform.isDown (e.sendRun ts o).platform m.key = true := by
    obtain ⟨es, hes, hk⟩ := hland.reached
    rw [isDown_eq] at hdown ⊢
    rw [Desktop.keys_isDown hk]
    exact (Run.isDown_of_sublist hplain.altgr (fun em hem => (hjournal em hem).1) hes).trans hdown
  refine ⟨hjournal, ?_, hafter⟩
  rcases hland.ledger with h | h | h <;> rw [h]
  · exact hl
  · exact mem_heldDown.mpr hdown
  · exact mem_heldDown.mpr hafter

/-- **A blind send leaves held modifiers alone**: if the text begins blind and names no modifier
key, then a modifier that is down and not excluded is down before each event and after the send, and
no event moves its key; whatever the mask key is, and however the send ends. -/
theorem blind_spares {e : Engine Bench} {text : String} {o : SendOptions} {excluded : Mask}
    {ts : List Token} (hplain : e.platform.Plain) (hcache : e.Truthful) (hmask : e.SidedMask)
    (htext : Token.ofText o.raw text = .blind excluded :: ts) (hkeys : ∀ t ∈ ts, t.named? = none)
    {m : Modifier} (hdown : Platform.isDown e.platform m.key = true) (hm : m ∉ excluded) :
    (∀ em ∈ (e.sendRun (Token.ofText o.raw text) o).journal, em.event.Spares m ∧ m ∈ em.held) ∧
      m ∈ (e.send text o).2.ledger.logical ∧
      Platform.isDown (e.send text o).2.platform m.key = true := by
  have hnone : ∀ t ∈ Token.ofText o.raw text, t.named? = none := by
    rw [htext]
    intro t ht
    rcases List.mem_cons.mp ht with rfl | ht
    · rfl
    · exact hkeys t ht
  have hkept : m ∈ (e.opened (Token.ofText o.raw text) o).kept := by
    refine Mask.mem_union.mpr (.inr ?_)
    rw [htext]
    exact Mask.mem_sdiff.mpr ⟨mem_heldDown.mpr hdown, hm⟩
  have h := spared_sendRun hplain hcache hmask hdown hkept
    (fun t ht => Token.sided_of_named? (hnone t ht)) (fun t ht => by rw [hnone t ht]; exact nofun)
    fun ds hds => (Token.digits_of_mem_ofText hds).2
  have hsend : (e.send text o).2 = (e.sendRun (Token.ofText o.raw text) o).toEngine := by
    simp [send, htext, Run.outcome]
  rw [hsend]
  exact ⟨h.journal, h.logical, h.down⟩

/-- Alt, the mask key of this engine, stays down while Control, which the send is not blind to, is
put up for a letter. -/
theorem blind_spares_of_alt :
    let down := (KeySet.assign ∅ .lalt true).assign .lcontrol true
    let e : Engine Bench :=
      { Engine.new { Bench.new with desktop := { Desktop.new with down } } {} with
        maskKey := (.lalt, VirtualKey.lalt.scan) }
    (∀ em ∈ (e.sendRun (Token.ofText .notRaw "\x7bBlind^\x7da") .plain).journal,
      em.event.Spares lalt ∧ lalt ∈ em.held) ∧
      lalt ∈ (e.send "\x7bBlind^\x7da" .plain).2.ledger.logical ∧
      Platform.isDown (e.send "\x7bBlind^\x7da" .plain).2.platform Modifier.lalt.key = true := by
  intro down e
  have hts : Token.ofText .notRaw "\x7bBlind^\x7da" =
      [.blind (Mask.classes {lctrl}), .char 'a'] := by
    have hd : Token.directive? "Blind^\x7da".toList = some ("Blind^".toList, ['a']) := by decide
    have ht : Directive.token true "Blind^".toList = .blind (Mask.classes {lctrl}) := by decide
    refine (Token.ofChars_directive (by decide) hd).trans ?_
    rw [ht]
    simp [Token.ofChars, Token.ofChar, ofSymbol?]
  refine blind_spares (o := .plain) ⟨rfl, rfl, rfl, rfl⟩
    (fun _ _ h => absurd h List.not_mem_nil) ⟨by decide, sidedKey_modifier lalt⟩ hts ?_
    (by decide) (by decide)
  intro t ht
  rw [List.mem_singleton.mp ht]
  rfl

end Engine

end KeySynth
