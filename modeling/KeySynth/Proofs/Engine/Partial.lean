import KeySynth.Proofs.Engine.AllOrNothing
import KeySynth.Proofs.Engine.Restore
import KeySynth.Proofs.Engine.Tracking

/-!
What is left when only the first events of a batch get through.

The ledger then takes from the system what is down. What the text has said of modifiers it keeps,
whether or not the events that go with it were among the first.
-/

namespace KeySynth

open Modifier Recorder

/-! ### What texts have said of modifiers -/

/-- The modifiers that texts have put down for good, as a remapping, and blindly. -/
structure Words where
  persistent : Mask
  remapped : Mask
  blindHeld : Mask
deriving DecidableEq

def Holds.words (h : Holds) : Words := ⟨h.persistent, h.remapped, h.blindHeld⟩

namespace Words

/-- One word more. -/
def note (blind : Bool) (w : Words) : Modifier × Explicit → Words
  | (m, .down) =>
    ⟨w.persistent ∪ {m}, w.remapped, if blind then w.blindHeld ∪ {m} else w.blindHeld⟩
  | (m, .downRemapped) => { w with remapped := w.remapped ∪ {m} }
  | (m, .up) => ⟨w.persistent \ {m}, w.remapped \ {m}, w.blindHeld \ {m}⟩

def hear (blind : Bool) (w : Words) (said : List (Modifier × Explicit)) : Words :=
  said.foldl (note blind) w

/-- What is down blindly after a word was so before or has just been put down. -/
lemma of_mem_blindHeld_note {blind : Bool} {w : Words} {x : Modifier × Explicit} {m : Modifier}
    (h : m ∈ (w.note blind x).blindHeld) :
    blind = true ∧ x = (m, .down) ∨ m ∈ w.blindHeld ∧ x ≠ (m, .up) := by
  obtain ⟨n, _ | _ | _⟩ := x
  · simp only [note] at h
    split_ifs at h with hblind
    · rcases Mask.mem_union.mp h with h | h
      · exact .inr ⟨h, by simp⟩
      · exact .inl ⟨hblind, by rw [Mask.mem_singleton.mp h]⟩
    · exact .inr ⟨h, by simp⟩
  · exact .inr ⟨h, by simp⟩
  · obtain ⟨h, hne⟩ := Mask.mem_sdiff.mp h
    refine .inr ⟨h, fun he => hne ?_⟩
    rw [(Prod.mk.inj he).1]
    exact Mask.mem_singleton.mpr rfl

/-- What is put down blindly is put down for good; only what was no longer so is not. -/
lemma mem_blindHeld_hear {blind : Bool} {w : Words} {said : List (Modifier × Explicit)}
    {m : Modifier} (h : m ∈ (w.hear blind said).blindHeld) :
    m ∈ (w.hear blind said).persistent ∨ m ∈ w.blindHeld ∧ m ∉ w.persistent := by
  induction said generalizing w with
  | nil => exact (em (m ∈ w.persistent)).imp_right fun hn => ⟨h, hn⟩
  | cons x said ih =>
    refine (ih h).imp_right fun ⟨hb, hp⟩ => ?_
    obtain ⟨n, _ | _ | _⟩ := x
    · simp only [note, Mask.mem_union, not_or] at hb hp
      split_ifs at hb
      · exact ⟨(Mask.mem_union.mp hb).resolve_right hp.2, hp.1⟩
      · exact ⟨hb, hp.1⟩
    · exact ⟨hb, hp⟩
    · simp only [note, Mask.mem_sdiff] at hb hp
      exact ⟨hb.1, fun hm => hp ⟨hm, hb.2⟩⟩

end Words

namespace Run

variable {P : Type}

lemma words_noteExplicit (r : Run P) (m : Modifier) (e : Explicit) :
    (r.noteExplicit m e).ledger.words = r.ledger.words.note r.blind (m, e) := by
  cases e <;> rfl

lemma words_of_still {r s : Run P} (h : s.still = r.still) : s.ledger.words = r.ledger.words :=
  congrArg (·.ledger.words) h

variable [Platform P]

lemma words_act (r : Run P) (t : Token) :
    (r.act t).ledger.words = r.ledger.words.hear r.blind (r.explicit? t).toList := by
  obtain ⟨s, hs, he⟩ := r.act_eq (strokes_any t)
  rw [he, ← words_of_still hs.still, ← still_blind hs.still]
  cases r.explicit? t with
  | none => rfl
  | some x => exact s.words_noteExplicit x.1 x.2

/-- A text's words are noted, as far as it is executed. -/
theorem words_interpret (r : Run P) (ts : List Token) :
    (r.interpret ts).ledger.words = r.ledger.words.hear r.blind (r.said ts) := by
  induction ts generalizing r with
  | nil => rfl
  | cons t ts ih =>
    by_cases hf : r.fault.isSome = true
    · rw [r.interpret_of_fault hf, said, if_pos hf]
      rfl
    · have hs : r.step t = r.act t := if_neg hf
      change ((r.step t).interpret ts).ledger.words = _
      rw [hs, ih, words_act, fixed_blind (r.fixed_act t), said, if_neg hf, Words.hear, Words.hear,
        Words.hear, List.foldl_append]

end Run

/-! ### The first events of a batch -/

lemma Desktop.isDown_of_physical {d : Desktop} {m : Modifier} (h : m ∈ d.physical) :
    d.isDown m.key = true := by
  have hmeets : d.physical.meets (Mask.ofKey m.key) = true := Mask.meets_iff.mpr ⟨m, h, by simp⟩
  simp [isDown, hmeets]

/-- The event puts a key down. -/
def EventRecord.Presses (altgr : Bool) (v : VirtualKey) : EventRecord → Prop
  | .key k => k.unicode = false ∧ k.up = false ∧
      (v = Desktop.keyOf k ∨ altgr = true ∧ Desktop.keyOf k = .ralt ∧ v = .lcontrol)
  | .mouse _ | .delay _ => False

namespace Desktop

lemma mem_down_of_apply {d : Desktop} {e : EventRecord} {v : VirtualKey}
    (he : ¬e.Presses d.altgr v) (h : v ∈ (d.apply e).down) : v ∈ d.down := by
  cases e with
  | delay ms => exact h
  | mouse m => rwa [keys_down (keys_apply_mouse d m)] at h
  | key k =>
    by_cases hu : k.unicode = true
    · rwa [keys_down (keys_apply_unicode hu)] at h
    · have hu : k.unicode = false := by simpa using hu
      rw [mem_down_applyKey hu] at h
      split_ifs at h with hv
      · exact absurd ⟨hu, h, hv⟩ he
      · exact h

/-- A key that is down in the end, and that none of these events puts down, was down before. -/
lemma mem_down_of_foldl {d : Desktop} {es : List EventRecord} {v : VirtualKey}
    (hes : ∀ e ∈ es, ¬e.Presses d.altgr v) (h : v ∈ (es.foldl apply d).down) : v ∈ d.down := by
  induction es generalizing d with
  | nil => exact h
  | cons e es ih =>
    have ha : (d.apply e).altgr = d.altgr := (d.apply_eq e).1
    refine mem_down_of_apply (hes e (by simp)) (ih (fun e' he' => ?_) h)
    rw [ha]
    exact hes e' (by simp [he'])

end Desktop

namespace Run

variable {r : Run Bench} {before : Holds} {es : List EventRecord}
  (hk : r.backend = .input) (hb : r.batch = some (.given Backend.input.ceiling before es))
  (hfit : es.length ≤ Backend.input.ceiling) (hne : es ≠ [])
include hk hb hfit hne

lemma flush_input : r.flush =
    match Platform.inject r.platform es.toArray with
    | (.ok n, p) =>
      if n < es.length then { r with batch := none, platform := p }.resync
      else { r with batch := none, platform := p }
    | (.error _, p) => { r with batch := none, platform := p }.rollback before := by
  have hsome : es.toArray.isEmpty = false := by simp [hne]
  unfold flush
  rw [hb, Batch.given, if_pos hfit]
  simp only [hsome, hk, Bool.false_eq_true, if_false, reduceCtorEq]
  rcases Platform.inject r.platform es.toArray with ⟨_ | n, p⟩ <;> rfl

/-- A batch that does not get through leaves the ledger as it was. -/
lemma flush_failing (hfail : r.platform.desktop.failing = true) :
    r.flush = { r with batch := none }.rollback before := by
  have hinject : Platform.inject r.platform es.toArray =
      (.error (.platform "injection blocked"), r.platform) := by
    change Bench.inject _ _ = _
    simp [Bench.inject, Desktop.inject, hfail]
  rw [flush_input hk hb hfit hne, hinject]

/-- The system has what got through of a batch, and says what is down. -/
lemma flush_cut {n : Nat} (hworks : r.platform.desktop.failing = false)
    (hlimit : r.platform.limit = some n) (hn : n < es.length) :
    r.flush = Run.resync { r with
      batch := none
      platform := { r.platform with
        desktop := r.platform.desktop.take .input (es.take n).toArray } } := by
  have hinject : Platform.inject r.platform es.toArray =
      (.ok n, { r.platform with
        desktop := r.platform.desktop.take .input (es.take n).toArray }) := by
    change Bench.inject _ _ = _
    simp [Bench.inject, Bench.accepted, hlimit, Desktop.inject_works hworks, Nat.le_of_lt hn]
  rw [flush_input hk hb hfit hne, hinject]
  exact if_pos hn

end Run

namespace Engine

variable {e : Engine Bench} {text : String} {o : SendOptions} {es : List EventRecord}

/-- A batch of `es` is handed over to be injected in one call. -/
structure HandsOver (e : Engine Bench) (text : String) (o : SendOptions)
    (es : List EventRecord) : Prop where
  input : e.backendFor o = .input
  ok : (e.send text o).1 = .ok ()
  gives : e.GivesOut text o es
  fits : es.length ≤ Backend.input.ceiling
  nonempty : es ≠ []

/-- The ledger and the desktop agree on modifiers, and go on to do so. -/
structure InStep (e : Engine Bench) (text : String) (o : SendOptions) : Prop where
  cache : e.Truthful
  altgr : Platform.hasAltGr e.platform (Platform.focusedLayout e.platform o.target) =
    e.platform.desktop.altgr
  mask : PlainMask e.maskKey
  maskSide : SidedKey e.maskKey.1 e.maskKey.2
  keys : ∀ t ∈ Token.ofText o.raw text, t.Sided

/-- What has been said before, where it still holds. -/
def wordsBefore (e : Engine Bench) : Words :=
  ⟨e.ledger.persistent ∩ (heldDown e.platform \ (e.seenPhysical ∩ heldDown e.platform)),
    e.ledger.remapped, e.ledger.blindHeld⟩

/-- What has been said when the whole text has been typed. -/
def wordsAfter (e : Engine Bench) (text : String) (o : SendOptions) : Words :=
  let ts := Token.ofText o.raw text
  e.wordsBefore.hear (Token.exclusions ts).isSome ((e.opened ts o).storeCapsLock.said ts)

lemma words_typed (e : Engine Bench) (text : String) (o : SendOptions) :
    (e.typed (Token.ofText o.raw text) o).ledger.words = e.wordsAfter text o := by
  set ts := Token.ofText o.raw text
  have hstill := ((e.opened ts o).flows_storeCapsLock).still
  have hwords : (e.opened ts o).storeCapsLock.ledger.words = e.wordsBefore :=
    Run.words_of_still hstill
  have hblind : (e.opened ts o).storeCapsLock.blind = (Token.exclusions ts).isSome :=
    Run.still_blind hstill
  rw [typed, Run.words_of_still (Run.flows_putBack _ _).still, upTo, Run.words_interpret, hwords,
    hblind]
  rfl

/-- When a text has been typed, what has been put down for good is down, on the way to the system
and in the ledger. -/
lemma InStep.mem_down (h : e.InStep text o)
    (hes : (e.opened (Token.ofText o.raw text) o).Emits es (e.typed (Token.ofText o.raw text) o))
    {m : Modifier} (hm : m ∈ (e.wordsAfter text o).persistent)
    (hphys : m ∉ e.platform.desktop.physical) :
    m.key ∈ (es.foldl Desktop.apply e.platform.desktop).down := by
  set ts := Token.ofText o.raw text
  have hlogical : m ∈ (e.typed ts o).ledger.logical := by
    rw [← words_typed] at hm
    have hm : m ∈ (e.typed ts o).ledger.persistent := hm
    rw [logical_typed h.mask, Mask.mem_settled]
    simp [Run.restored, hm]
  have hfollows : Run.Follows _ _ (e.typed ts o) :=
    follows_typed h.cache h.altgr h.maskSide h.keys
  have hdesk : ((e.typed ts o).desk e.platform.desktop).keys =
      (es.foldl Desktop.apply e.platform.desktop).keys := by
    have hnone : (e.opened ts o).sent = [] := rfl
    rw [Run.desk, hes.sent, hnone, List.nil_append, Desktop.keys_foldl_filter]
  rw [← Desktop.keys_down hdesk]
  exact (hfollows.tracks.mem m hphys).mp hlogical

/-- What has been put down for good is down once the first events of the text have got through,
unless one of the others is to put it down. -/
lemma InStep.down_or_lost (h : e.InStep text o)
    (hes : (e.opened (Token.ofText o.raw text) o).Emits es (e.typed (Token.ofText o.raw text) o))
    {m : Modifier} (hm : m ∈ (e.wordsAfter text o).persistent) (n : Nat) :
    (e.platform.desktop.take .input (es.take n).toArray).isDown m.key = true ∨
      ∃ ev ∈ es.drop n, ev.Presses e.platform.desktop.altgr m.key := by
  by_cases hlost : ∃ ev ∈ es.drop n, ev.Presses e.platform.desktop.altgr m.key
  · exact .inr hlost
  have hd : (e.platform.desktop.take .input (es.take n).toArray).keys =
      ((es.take n).foldl Desktop.apply e.platform.desktop).keys := Desktop.keys_take ..
  obtain ⟨haltgr, hphysical, -⟩ := e.platform.desktop.foldl_apply_eq (es.take n)
  rw [Desktop.keys_isDown hd]
  by_cases hphys : m ∈ e.platform.desktop.physical
  · exact .inl (Desktop.isDown_of_physical (hphysical ▸ hphys))
  · rw [Desktop.isDown_key (hphysical ▸ hphys)]
    have hall := h.mem_down hes hm hphys
    rw [← List.take_append_drop n es, List.foldl_append] at hall
    exact .inl (Desktop.mem_down_of_foldl
      (fun ev hev hpress => hlost ⟨ev, hev, haltgr ▸ hpress⟩) hall)

/-- The batch is handed over as it stands when the text has been typed. -/
lemma handsOver_of_batch (hinput : e.backendFor o = .input) (hok : (e.send text o).1 = .ok ())
    (htext : text ≠ "") (hne : es ≠ [])
    (hb : (e.typed (Token.ofText o.raw text) o).batch.map
      (fun b => (b.discarded, b.events.toList)) = some (false, es)) : e.HandsOver text o es := by
  have hbatch : (e.backendFor o).isBatch = true := by rw [hinput]; rfl
  have hts : Token.ofText o.raw text ≠ [] := fun hnil => htext (Token.ofText_eq_nil hnil)
  obtain ⟨fs, hfs⟩ := e.emits_typed (Token.ofText o.raw text) o
  rw [(batch_of_emits hbatch hfs).1, hinput, Option.map_some, Option.some_inj, Prod.mk.injEq] at hb
  have hfits : fs.length ≤ Backend.input.ceiling := by
    rw [← Nat.not_lt, ← Batch.given_discarded _ e.resync.ledger.toHolds fs, hb.1]
    exact Bool.false_ne_true
  have hes : fs = es := by
    rw [← hb.2, Batch.given, if_pos hfits]
  refine ⟨hinput, hok, ?_, hes ▸ hfits, hne⟩
  unfold GivesOut
  rw [if_neg (by simpa using hts), ← hes]
  exact hfs

namespace HandsOver

variable (h : e.HandsOver text o es)
include h

/-- Such a send ends with its one call. -/
lemma send_eq : (e.send text o).2 = (e.typed (Token.ofText o.raw text) o).flush.toEngine ∧
    (e.opened (Token.ofText o.raw text) o).Emits es (e.typed (Token.ofText o.raw text) o) := by
  have hbatch : (e.backendFor o).isBatch = true := by rw [h.input]; rfl
  have hts : ¬(Token.ofText o.raw text).isEmpty = true := fun hnil => by
    have hgives := h.gives
    unfold GivesOut at hgives
    rw [if_pos hnil] at hgives
    exact h.nonempty hgives
  have hes := h.gives
  unfold GivesOut at hes
  rw [if_neg hts] at hes
  have hs : e.send text o = (e.sendRun (Token.ofText o.raw text) o).outcome := if_neg hts
  have hok := h.ok
  rw [hs, Run.outcome_eq_ok, sendRun_eq, Run.fault_leave] at hok
  refine ⟨?_, hes⟩
  rw [hs, Run.outcome, sendRun_batch hbatch, hok]
  rfl

/-- **What a batch that gets through in part leaves behind.** If nothing gets through, what has been
said of modifiers is as before. If only the first events do, the ledger has down what the system has
down, but all of the text counts as said. What has been put down for good or blindly is then down,
unless one of the lost events was to put it down, or it had been forgotten before. -/
theorem part_taken :
    (e.platform.desktop.failing = true → (e.send text o).2.ledger.words = e.ledger.words) ∧
    ∀ n, e.platform.desktop.failing = false → e.platform.limit = some n → n < es.length →
      let e' := (e.send text o).2
      e'.platform.desktop = e.platform.desktop.take .input (es.take n).toArray ∧
      e'.ledger.logical = heldDown e'.platform ∧
      e'.ledger.words = e.wordsAfter text o ∧
      (e.InStep text o → ∀ m : Modifier,
        m ∈ e'.ledger.persistent ∨ m ∈ e'.ledger.blindHeld ∧
          (m ∈ e.wordsBefore.blindHeld → m ∈ e.wordsBefore.persistent) →
        m ∈ e'.ledger.logical ∨
          ∃ ev ∈ es.drop n, ev.Presses e.platform.desktop.altgr m.key) := by
  obtain ⟨hsend, hes⟩ := h.send_eq
  have hbatch : (e.backendFor o).isBatch = true := by rw [h.input]; rfl
  set ts := Token.ofText o.raw text
  obtain ⟨hb, hp⟩ := batch_of_emits hbatch hes
  have hk : (e.typed ts o).backend = .input := hes.backend.trans h.input
  rw [h.input] at hb
  refine ⟨fun hfail => ?_, fun n hworks hlimit hn => ?_⟩
  · rw [hsend, Run.flush_failing hk hb h.fits h.nonempty (hp ▸ hfail)]
    rfl
  · rw [hsend, Run.flush_cut hk hb h.fits h.nonempty (hp ▸ hworks) (hp ▸ hlimit) hn, hp]
    refine ⟨rfl, rfl, e.words_typed text o, fun hstep m hm => ?_⟩
    have hwords := e.words_typed text o
    have hpersistent : m ∈ (e.wordsAfter text o).persistent := by
      rcases hm with hm | ⟨hm, hstale⟩
      · exact hwords ▸ hm
      · have hblind : m ∈ (e.wordsAfter text o).blindHeld := hwords ▸ hm
        refine (Words.mem_blindHeld_hear hblind).resolve_right fun hgone => ?_
        exact hgone.2 (hstale hgone.1)
    exact (hstep.down_or_lost hes hpersistent n).imp_left fun hdown =>
      mem_heldDown.mpr hdown

end HandsOver

/-- Of two modifiers that are put down for good the first gets through. -/
theorem part_taken_of_two :
    let e := Engine.new { Bench.new with limit := some 1 } { sendMode := .input }
    let press (vk : VirtualKey) (ext : Bool) : EventRecord :=
      .key ⟨vk, vk.scan, false, ext, false, .ofLevel 0⟩
    let es := [press .lcontrol false, press .lwin true]
    let e' := (e.send "{LCtrl down}{LWin down}" .plain).2
    e.HandsOver "{LCtrl down}{LWin down}" .plain es ∧ e.InStep "{LCtrl down}{LWin down}" .plain ∧
      lctrl ∈ e'.ledger.persistent ∧
      (lctrl ∈ e'.ledger.logical ∨
        ∃ ev ∈ es.drop 1, ev.Presses e.platform.desktop.altgr .lcontrol) := by
  intro e press es e'
  have h : e.HandsOver "{LCtrl down}{LWin down}" .plain es :=
    handsOver_of_batch (by decide) (by decide +kernel) (by decide) (by simp [es])
      (by decide +kernel)
  have hstep : e.InStep "{LCtrl down}{LWin down}" .plain := by
    refine ⟨fun _ _ h => absurd h List.not_mem_nil, by decide, plainMask_lcontrol,
      sidedKey_modifier lctrl, fun t ht => ?_⟩
    have hts : Token.ofText .notRaw "{LCtrl down}{LWin down}" =
        [.key (.named (.key lctrl.key lctrl.scan)) .down,
          .key (.named (.key lwin.key lwin.scan)) .down] := by decide +kernel
    change t ∈ Token.ofText .notRaw "{LCtrl down}{LWin down}" at ht
    rw [hts, List.mem_cons, List.mem_singleton] at ht
    rcases ht with rfl | rfl
    · exact sidedKey_modifier lctrl
    · exact sidedKey_modifier lwin
  have hpersistent : lctrl ∈ e'.ledger.persistent := by decide +kernel
  exact ⟨h, hstep, hpersistent,
    (h.part_taken.2 1 rfl rfl (by decide)).2.2.2 hstep lctrl (.inl hpersistent)⟩

/-- Of two keys only the first gets through: the Win key counts as down for good and as held
blindly, and is not down. -/
theorem part_taken_untruthful :
    ¬∀ (e : Engine Bench) (text : String) (o : SendOptions) (es : List EventRecord) (n : Nat),
      e.HandsOver text o es → e.platform.desktop.failing = false → e.platform.limit = some n →
      n < es.length →
      let e' := (e.send text o).2
      e'.ledger.persistent ⊆ e'.ledger.logical ∧ e'.ledger.blindHeld ⊆ e'.ledger.logical ∧
        (n = 0 → e'.ledger.words = e.ledger.words) := by
  intro h
  let e := Engine.new { Bench.new with limit := some 1 } { sendMode := .input }
  have hb : e.HandsOver "{Blind}{LCtrl down}{LWin down}" .plain
      [.key ⟨.lcontrol, VirtualKey.lcontrol.scan, false, false, false, .ofLevel 0⟩,
        .key ⟨.lwin, VirtualKey.lwin.scan, false, true, false, .ofLevel 0⟩] :=
    handsOver_of_batch (by decide) (by decide +kernel) (by decide) (by simp) (by decide +kernel)
  exact absurd (h e _ _ _ 1 hb rfl rfl (by decide)) (by decide +kernel)

end Engine

end KeySynth
