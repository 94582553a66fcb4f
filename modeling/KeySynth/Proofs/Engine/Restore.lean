import KeySynth.Desktop.Basic
import KeySynth.Proofs.Engine.Act
import KeySynth.Proofs.Script.Tokens

/-!
What is down after a send.

A send ends by putting down what texts keep down, what the user is taken to hold and what a blind
send has found down. The last of these follows what the text itself says of modifiers, as far as
the text is executed.
-/

namespace KeySynth

open Modifier

/-- What is kept of `held` once something has been said of a modifier. -/
def Explicit.applyTo (held : Mask) (m : Modifier) : Explicit → Mask
  | down | downRemapped => held ∪ {m}
  | up => held \ {m}

/-- What is kept of `held` in the end. -/
def heard (held : Mask) (said : List (Modifier × Explicit)) : Mask :=
  said.foldl (fun s x => x.2.applyTo s x.1) held

namespace Run

variable {P : Type} [Platform P] (r : Run P)

/-- What a text says of modifiers, as far as it is executed. -/
def said (r : Run P) : List Token → List (Modifier × Explicit)
  | [] => []
  | t :: ts => if r.fault.isSome then [] else (r.explicit? t).toList ++ (r.act t).said ts

lemma interpret_of_fault (h : r.fault.isSome = true) (ts : List Token) : r.interpret ts = r := by
  induction ts with
  | nil => rfl
  | cons t ts ih =>
    have hs : r.step t = r := if_pos h
    exact (congrArg (·.interpret ts) hs).trans ih

lemma blindBase_act (hb : r.blind = true) (t : Token) :
    (r.act t).blindBase = heard r.blindBase (r.explicit? t).toList := by
  obtain ⟨s, hs, he⟩ := r.act_eq (strokes_any t)
  have hbs : s.blind = true := (still_blind hs.still).trans hb
  rw [he, ← still_blindBase hs.still]
  match r.explicit? t with
  | none => rfl
  | some (m, .down) => exact if_pos hbs
  | some (m, .downRemapped) => exact if_pos hbs
  | some (m, .up) => rfl

/-- A blind send goes by what has been said of modifiers. -/
theorem blindBase_interpret (hb : r.blind = true) (ts : List Token) :
    (r.interpret ts).blindBase = heard r.blindBase (r.said ts) := by
  induction ts generalizing r with
  | nil => rfl
  | cons t ts ih =>
    by_cases hf : r.fault.isSome = true
    · rw [r.interpret_of_fault hf, said, if_pos hf]
      rfl
    · have hs : r.step t = r.act t := if_neg hf
      have hbs : (r.act t).blind = true := (fixed_blind (r.fixed_act t)).trans hb
      rw [said, if_neg hf, heard, List.foldl_append]
      change ((r.step t).interpret ts).blindBase = _
      rw [hs, ih _ hbs, r.blindBase_act hb]
      rfl

/-- Any other send has nothing of the kind to keep. -/
theorem blindBase_interpret_of_not_blind (hb : r.blind = false) (h0 : r.blindBase = ∅)
    (ts : List Token) : (r.interpret ts).blindBase = ∅ := by
  refine (interpret_invariant (I := fun s => s.blind = false ∧ s.blindBase = ∅)
    (fun s t _ hs => ?_) ⟨hb, h0⟩).2
  refine ⟨(fixed_blind (s.fixed_act t)).trans hs.1, ?_⟩
  obtain ⟨q, hq, he⟩ := s.act_eq (strokes_any t)
  have hbq : q.blind ≠ true := by
    rw [still_blind hq.still, hs.1]
    decide
  have h0q : q.blindBase = ∅ := (still_blindBase hq.still).trans hs.2
  rw [he]
  match s.explicit? t with
  | none => exact h0q
  | some (m, .down) => exact (if_neg hbq).trans h0q
  | some (m, .downRemapped) => exact (if_neg hbq).trans h0q
  | some (m, .up) =>
    change q.blindBase \ {m} = ∅
    rw [h0q]
    exact Mask.eq_empty_iff.mpr fun n hn => by simp at hn

/-! ### The end of a run -/

/-- The batch, if there is one, gets through whole. -/
def Delivered : Prop :=
  ∀ b, r.batch = some b → b.discarded = false ∧ (b.events.isEmpty = true ∨
    if r.backend = .play then (Platform.play r.platform b.events).1 = .ok ()
    else ∃ n, (Platform.inject r.platform b.events).1 = .ok n ∧ b.size ≤ n)

variable {r}

lemma Delivered.ledger_flush (h : r.Delivered) : r.flush.ledger = r.ledger := by
  unfold flush
  cases hb : r.batch with
  | none => rfl
  | some b =>
    obtain ⟨hd, he⟩ := h b hb
    simp only [hd, Bool.false_eq_true, if_false]
    split_ifs with hemp hplay
    · rfl
    · have hok := he.resolve_left hemp
      rw [if_pos hplay] at hok
      split
      · rfl
      · rename_i f p hp
        rw [hp] at hok
        cases hok
    · have hok := he.resolve_left hemp
      rw [if_neg hplay] at hok
      obtain ⟨n, hn, hle⟩ := hok
      split
      · rename_i n' p hp
        rw [hp] at hn
        cases hn
        rw [if_neg (Nat.not_lt.mpr hle)]
      · rename_i f p hp
        rw [hp] at hn
        cases hn

end Run

namespace Engine

variable {P : Type} [Platform P] (e : Engine P)

/-- What the user is taken to hold when a send begins. -/
def presumed : Mask :=
  if Platform.hasHook e.platform then Platform.physical e.platform
  else if e.hotkeyTimeout < 0 ∨ ∃ start ∈ e.ledger.hotkeyStart,
      ((Platform.now e.platform - start : Nat) : Int) < millisecond * e.hotkeyTimeout then
    heldDown e.platform
  else ∅

/-- What a blind send keeps down of what it has found down. -/
def blindKept (ts : List Token) (o : SendOptions) : Mask :=
  match Token.exclusions ts with
  | none => ∅
  | some excluded =>
    heard (heldDown e.platform \ excluded) ((e.opened ts o).storeCapsLock.said ts)

variable {e} {o : SendOptions} {ts : List Token}

lemma hotkeyFresh_iff : e.hotkeyFresh = true ↔ e.hotkeyTimeout < 0 ∨
    ∃ start ∈ e.ledger.hotkeyStart,
      ((Platform.now e.platform - start : Nat) : Int) < millisecond * e.hotkeyTimeout := by
  unfold hotkeyFresh
  cases e.ledger.hotkeyStart <;> split_ifs with ht <;> simp [ht]

lemma guessHeld_resync : e.resync.guessHeld = e.presumed := by
  have hfresh : e.resync.hotkeyFresh = e.hotkeyFresh := rfl
  change (if Platform.hasHook e.platform then Platform.physical e.platform
    else if e.resync.hotkeyFresh then heldDown e.platform else ∅) = _
  simp only [presumed, hfresh, hotkeyFresh_iff]

lemma blindBase_typed : (e.typed ts o).blindBase = e.blindKept ts o := by
  have hstill := (e.opened ts o).flows_storeCapsLock.still
  have hbase : (e.opened ts o).storeCapsLock.blindBase =
      ((Token.exclusions ts).map (heldDown e.platform \ ·)).getD ∅ := Run.still_blindBase hstill
  have hblind : (e.opened ts o).storeCapsLock.blind = (Token.exclusions ts).isSome :=
    Run.still_blind hstill
  rw [typed, Run.still_blindBase (Run.flows_putBack _ _).still, upTo, blindKept]
  cases hex : Token.exclusions ts with
  | none =>
    rw [hex] at hbase hblind
    exact Run.blindBase_interpret_of_not_blind _ hblind hbase ts
  | some excluded =>
    rw [hex] at hbase hblind
    rw [Run.blindBase_interpret _ hblind, hbase]
    rfl

lemma fixed_typed : (e.typed ts o).fixed = (e.opened ts o).fixed :=
  (Run.fixed_of_still (Run.flows_putBack _ _).still).trans (e.fixed_upTo ts o ts)

/-- What is to be down at the end of a text. -/
lemma restored_typed : (e.typed ts o).restored =
    (e.typed ts o).ledger.persistent ∪ (e.typed ts o).ledger.remapped ∪ e.presumed ∪
      e.blindKept ts o := by
  have h0 : (e.opened ts o).estimate = e.resync.guessHeld := rfl
  rw [Run.restored, blindBase_typed, Run.fixed_estimate fixed_typed, h0, guessHeld_resync]

theorem logical_typed (hmask : PlainMask e.maskKey) :
    (e.typed ts o).ledger.logical = (e.typed ts o).restored.settled (e.typed ts o).altgr := by
  have hm : (e.upTo ts o ts).maskKey = e.maskKey := Run.fixed_maskKey (e.fixed_upTo ts o ts)
  have hs := ((e.upTo ts o ts).flows_putBack (e.opened ts o).storesCapsLock).still
  rw [typed, Run.logical_putBack _ (hm ▸ hmask), Run.still_restored hs, Run.still_altgr hs]

/-- What is down when everything has been put back. -/
theorem settled_typed (hmask : PlainMask e.maskKey) : (e.typed ts o).ledger.logical =
    ((e.typed ts o).ledger.persistent ∪ (e.typed ts o).ledger.remapped ∪ e.presumed ∪
      e.blindKept ts o).settled (e.ledger.hasAltGr (Platform.focusedLayout e.platform o.target)
        (Platform.hasAltGr e.platform)).1 := by
  have haltgr : (e.typed ts o).altgr = (e.ledger.hasAltGr
      (Platform.focusedLayout e.platform o.target) (Platform.hasAltGr e.platform)).1 :=
    Run.fixed_altgr fixed_typed
  rw [logical_typed hmask, restored_typed, haltgr]

lemma batch_typed (h : e.backendFor o = .event) :
    (e.upTo ts o ts).batch = none ∧ (e.typed ts o).batch = none := by
  have h0 : (e.opened ts o).batch = none := batch_opened_of_event h ts
  have hq : (e.upTo ts o ts).batch = none :=
    Run.interpret_invariant (fun s _ _ hs => s.batch_act hs)
      ((Run.flows_storeCapsLock _).batch_eq_none h0)
  exact ⟨hq, (Run.flows_putBack _ _).batch_eq_none hq⟩

/-- Without a batch a send is over when everything has been put back. -/
lemma sendRun_of_event (h : e.backendFor o = .event) : e.sendRun ts o = e.typed ts o := by
  obtain ⟨hb, hbt⟩ : (e.upTo ts o ts).batch = none ∧ (e.typed ts o).batch = none := batch_typed h
  rw [sendRun_eq, Run.leave, hb, Option.isSome_none, Bool.and_false, if_neg Bool.false_ne_true]
  change (e.typed ts o).flush = _
  rw [Run.flush, hbt]

/-- Events that are sent one by one, and a batch that gets through whole after no fault, leave the
ledger to what has been put back. -/
lemma ledger_sendRun (hway : e.backendFor o = .event ∨
      (e.sendRun ts o).fault = none ∧ (e.typed ts o).Delivered) :
    (e.sendRun ts o).ledger = (e.typed ts o).ledger := by
  set q := e.upTo ts o ts with hq
  have hs : e.sendRun ts o = if q.fault.isSome && q.batch.isSome then q.discard
    else (e.typed ts o).flush := rfl
  rcases hway with he | ⟨hf, hd⟩
  · rw [sendRun_of_event he]
  · by_cases hc : (q.fault.isSome && q.batch.isSome) = true
    · rw [hs, if_pos hc] at hf
      rw [Bool.and_eq_true] at hc
      obtain ⟨b, hb⟩ := Option.isSome_iff_exists.mp hc.2
      rw [Run.discard, hb] at hf
      have hq0 : q.fault = none := hf
      rw [hq0] at hc
      exact absurd hc.1 Bool.false_ne_true
    · rw [hs, if_neg hc]
      exact hd.ledger_flush

/-- **What is down after a send**: the modifiers that texts keep down, those that the user is taken
to hold and those that a blind send keeps, with the left Control key if AltGr is one of them. The
events have to be sent one by one, or in a batch that is neither given up nor refused. -/
theorem logical_send {text : String} (htext : text ≠ "") (hmask : PlainMask e.maskKey)
    (hway : e.backendFor o = .event ∨
      (e.send text o).1 = .ok () ∧ (e.typed (Token.ofText o.raw text) o).Delivered) :
    (e.send text o).2.ledger.logical =
        ((e.send text o).2.ledger.persistent ∪ (e.send text o).2.ledger.remapped ∪ e.presumed ∪
          e.blindKept (Token.ofText o.raw text) o).settled
        (e.ledger.hasAltGr (Platform.focusedLayout e.platform o.target)
          (Platform.hasAltGr e.platform)).1 ∧
      (e.send text o).2.ledger.persistent ⊆ (e.send text o).2.ledger.logical := by
  have hts : Token.ofText o.raw text ≠ [] := fun h => htext (Token.ofText_eq_nil h)
  have hs : e.send text o = (e.sendRun (Token.ofText o.raw text) o).outcome := by
    simp [send, hts]
  have hway' : e.backendFor o = .event ∨ (e.sendRun (Token.ofText o.raw text) o).fault = none ∧
      (e.typed (Token.ofText o.raw text) o).Delivered := by
    refine hway.imp_right (And.imp_left fun hok => ?_)
    rw [hs, Run.outcome] at hok
    cases hf : (e.sendRun (Token.ofText o.raw text) o).fault with
    | none => rfl
    | some f => rw [hf] at hok; cases hok
  have hl : (e.send text o).2.ledger = (e.typed (Token.ofText o.raw text) o).ledger := by
    rw [hs, ← ledger_sendRun hway']
    rfl
  have key : (e.typed (Token.ofText o.raw text) o).ledger.logical = _ := settled_typed hmask
  rw [hl]
  refine ⟨key, ?_⟩
  rw [key]
  refine Mask.subset_trans (Mask.subset_iff.mpr fun m hm => ?_) (Mask.subset_settled _ _)
  simp [hm]

/-- A blind text puts AltGr down for good. -/
theorem logical_send_of_altGr :
    let e := Engine.new { Desktop.new with altgr := true } {}
    let o := SendOptions.plain
    (e.send "{Blind}{RAlt down}" o).2.ledger.logical =
        ((e.send "{Blind}{RAlt down}" o).2.ledger.persistent ∪
          (e.send "{Blind}{RAlt down}" o).2.ledger.remapped ∪ e.presumed ∪
          e.blindKept (Token.ofText o.raw "{Blind}{RAlt down}") o).settled
        (e.ledger.hasAltGr (Platform.focusedLayout e.platform o.target)
          (Platform.hasAltGr e.platform)).1 ∧
      (e.send "{Blind}{RAlt down}" o).2.ledger.persistent ⊆
        (e.send "{Blind}{RAlt down}" o).2.ledger.logical := by
  refine logical_send (by decide) ⟨by decide, fun m hm => ?_⟩ (.inl (by decide))
  cases Mask.mem_ofKey.mp hm
  decide

end Engine

end KeySynth
