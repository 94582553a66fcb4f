import KeySynth.Proofs.Engine.Act
import KeySynth.Proofs.Engine.Delivery

/-!
What gets through is part of what was sent, in its order.

A platform may take an event or refuse it, and take a batch whole, in part or not at all. Whatever
it does, the keys of its desktop are where a part of the sent events leads to.
-/

namespace KeySynth

open Recorder

/-- An event joins a batch, or it is left out, or all is lost. -/
lemma Batch.events_push (b : Batch) (e : EventRecord) :
    (b.push e).events = b.events.push e ∨ (b.push e).events = b.events ∨
      (b.push e).events = #[] := by
  unfold push discard
  split_ifs
  · exact .inr (.inl rfl)
  · exact .inr (.inr rfl)
  · exact .inl rfl

namespace Run

variable {P : Type} [Platform P] [Recorder P] {d : Desktop} {before : Holds} {r s : Run P}

/-- The keys of the platform are where part of what was sent leads to from `d`. -/
def Reached (d : Desktop) (r : Run P) : Prop :=
  ∃ es : List EventRecord, es.Sublist r.sent ∧
    (desktop r.platform).keys = (es.foldl Desktop.apply d).keys

/-- What is in the batch was sent, and while there is a batch nothing has got through. -/
structure Arrives (d : Desktop) (before : Holds) (r : Run P) : Prop where
  reached : Reached d r
  batch : ∀ b, r.batch = some b → (desktop r.platform).keys = d.keys ∧ b.snapshot = before ∧
    (b.events.toList.filter (!·.isDelay)).Sublist r.sent

lemma keys_inject_single (p : P) (e : EventRecord) :
    ∃ es : List EventRecord, es.Sublist [e] ∧ (desktop (Platform.inject p #[e]).2).keys =
      (es.foldl Desktop.apply (desktop p)).keys := by
  cases hi : Platform.inject p #[e] with
  | mk res q =>
    cases res with
    | ok n => exact ⟨[e].take n, List.take_sublist n [e], keys_inject hi⟩
    | error f => exact ⟨[], List.nil_sublist _, keys_inject_error hi⟩

namespace Arrives

variable (h : Arrives d before r)
include h

lemma emit (e : EventRecord) : Arrives d before (r.emit e) where
  reached := by
    obtain ⟨us, hsub, hk⟩ := h.reached
    cases hb : r.batch with
    | some b =>
      refine ⟨us, ?_, by rw [platform_emit_of_some hb, hk]⟩
      rw [sent_emit]
      exact hsub.trans (List.sublist_append_left _ _)
    | none =>
      obtain ⟨es, hes, hi⟩ := keys_inject_single r.platform (e.carried r.backend)
      refine ⟨us ++ es, by rw [sent_emit]; exact hsub.append hes, ?_⟩
      rw [List.foldl_append, ← Desktop.keys_foldl_congr hk es, ← hi]
      rcases platform_emit_of_none hb e with hp | hp <;> rw [hp]
      exact keys_wait _ 0
  batch b hb := by
    rw [batch_emit, Option.map_eq_some_iff] at hb
    obtain ⟨b₀, hb₀, rfl⟩ := hb
    obtain ⟨hk, hs, hsub⟩ := h.batch b₀ hb₀
    rw [platform_emit_of_some hb₀, sent_emit]
    refine ⟨hk, (b₀.push_cases _).1.trans hs, ?_⟩
    rcases b₀.events_push (e.carried r.backend) with he | he | he <;> rw [he]
    · rw [Array.toList_push, List.filter_append]
      exact hsub.append List.filter_sublist
    · exact hsub.trans (List.sublist_append_left _ _)
    · exact List.nil_sublist _

lemma pause (p : Pause) : Arrives d before (r.pause p) := by
  obtain ⟨us, hsub, hk⟩ := h.reached
  have hidle : ∀ q : P, (desktop q).keys = (desktop r.platform).keys →
      Arrives d before { r with platform := q } := fun q hq =>
    ⟨⟨us, hsub, hq.trans hk⟩, fun b hb => by
      obtain ⟨hk, hrest⟩ := h.batch b hb
      exact ⟨hq.trans hk, hrest⟩⟩
  cases p with
  | none => exact h
  | sleep ms => exact hidle _ (keys_sleep _ ms)
  | wait ms => exact hidle _ (keys_wait _ ms)
  | mark ms =>
    unfold Run.pause emitMark
    dsimp only
    cases hb : r.batch with
    | none => exact h
    | some b =>
      refine ⟨⟨us, hsub, hk⟩, fun b' hb' => ?_⟩
      obtain rfl := Option.some_inj.mp hb'
      obtain ⟨hk, hs, hfilter⟩ := h.batch b hb
      refine ⟨hk, (b.push_cases _).1.trans hs, ?_⟩
      rcases b.events_push (.delay ms) with he | he | he <;> rw [he]
      · rw [Array.toList_push, List.filter_append]
        have hmark : [EventRecord.delay ms].filter (!·.isDelay) = [] := rfl
        rw [hmark, List.append_nil]
        exact hfilter
      · exact hfilter
      · exact List.nil_sublist _

lemma flows {Q : EventRecord → Prop} (hf : Flows Q r s) : Arrives d before s :=
  hf.invariant (fun _ e _ hs => hs.emit e) (fun _ p _ hs => hs.pause p) h

/-- Nothing that a token says has to do with the platform. -/
lemma conclude (t : Token) (said : Option (Modifier × Explicit)) :
    Arrives d before (r.conclude t said) := by
  obtain ⟨l, mode, base, mods, f, -, he⟩ := r.conclude_eq t said
  rw [he]
  exact ⟨h.reached, h.batch⟩

lemma act (t : Token) : Arrives d before (r.act t) := by
  obtain ⟨s, hs, he⟩ := r.act_eq (strokes_any t)
  rw [he]
  exact (h.flows hs.flows_any).conclude t _

lemma interpret (ts : List Token) : Arrives d before (r.interpret ts) :=
  interpret_invariant (fun _ t _ hs => hs.act t) h

end Arrives

/-! ### How a run can end -/

/-- Part of what was sent has got there, and the ledger is `l`, as before, or what the system
says. -/
structure Lands (d : Desktop) (before : Holds) (l : Ledger) (r : Run P) : Prop where
  reached : Reached d r
  ledger : r.ledger = l ∨ r.ledger = l.restore before ∨
    r.ledger = l.resync (Engine.heldDown r.platform)

theorem Arrives.flush (h : Arrives d before r) : Lands d before r.ledger r.flush := by
  unfold Run.flush
  cases hb : r.batch with
  | none => exact ⟨h.reached, .inl rfl⟩
  | some b =>
    obtain ⟨hk, hs, hsub⟩ := h.batch b hb
    -- a platform that has taken some of the batch
    have htake : ∀ {es : List EventRecord} {q : P}, es.Sublist b.events.toList →
        (desktop q).keys = (es.foldl Desktop.apply (desktop r.platform)).keys →
        Reached d { r with platform := q } := by
      intro es q hes hq
      refine ⟨es.filter (!·.isDelay), (hes.filter _).trans hsub, ?_⟩
      rw [Desktop.keys_foldl_filter, ← Desktop.keys_foldl_congr hk es]
      exact hq
    dsimp only
    split_ifs with hdis hemp hplay
    · exact ⟨h.reached, .inr (.inl (by rw [hs]; rfl))⟩
    · exact ⟨h.reached, .inl rfl⟩
    · split
      · rename_i u p hp
        exact ⟨htake (List.Sublist.refl _) (keys_play hp), .inl rfl⟩
      · rename_i f p hp
        exact ⟨htake (List.nil_sublist _) (keys_play_error hp), .inr (.inl (by rw [hs]; rfl))⟩
    · split
      · rename_i n p hp
        have hreached := htake (List.take_sublist n _) (keys_inject hp)
        split_ifs
        · exact ⟨hreached, .inr (.inr rfl)⟩
        · exact ⟨hreached, .inl rfl⟩
      · rename_i f p hp
        exact ⟨htake (List.nil_sublist _) (keys_inject_error hp), .inr (.inl (by rw [hs]; rfl))⟩

theorem Arrives.discard (h : Arrives d before r) : Lands d before r.ledger r.discard := by
  unfold Run.discard
  cases hb : r.batch with
  | none => exact ⟨h.reached, .inl rfl⟩
  | some b => exact ⟨h.reached, .inr (.inl (by rw [← (h.batch b hb).2.1]; rfl))⟩

theorem Arrives.leave (h : Arrives d before r) (capsLock : Bool) :
    Lands d before r.ledger (r.leave capsLock) ∨
      Lands d before (r.putBack capsLock).ledger (r.leave capsLock) := by
  unfold Run.leave
  split_ifs
  · exact .inl h.discard
  · exact .inr (h.flows (r.flows_putBack capsLock)).flush

end Run

namespace Engine

variable {P : Type} [Platform P] [Recorder P] {e : Engine P}

lemma arrives_start (mode : SendMode) (literal : RawMode) (target : Option WindowId) :
    Run.Arrives (desktop e.platform) e.ledger.snapshot (e.start mode literal target) where
  reached := ⟨[], List.nil_sublist _, rfl⟩
  batch b hb := by
    have hnew : (if (mode.resolve (Platform.foreignHooks e.platform)).isBatch then
        some (Batch.new (mode.resolve (Platform.foreignHooks e.platform)).ceiling
          e.ledger.snapshot) else none) = some b := hb
    split_ifs at hnew
    cases hnew
    exact ⟨rfl, rfl, List.nil_sublist _⟩

lemma arrives_opened (ts : List Token) (o : SendOptions) :
    Run.Arrives (desktop e.platform) e.resync.ledger.snapshot (e.opened ts o) :=
  have h := arrives_start (e := e.resync) (o.mode.getD e.settings.sendMode) o.raw o.target
  ⟨h.reached, h.batch⟩

/-- **What gets through of a text is part of what was sent**, and its end leaves the ledger as it
was at the last token or when all was put back, or as it was before, or as the system says. -/
theorem lands_sendRun (ts : List Token) (o : SendOptions) :
    Run.Lands (desktop e.platform) e.resync.ledger.snapshot (e.upTo ts o ts).ledger
        (e.sendRun ts o) ∨
      Run.Lands (desktop e.platform) e.resync.ledger.snapshot (e.typed ts o).ledger
        (e.sendRun ts o) :=
  (((arrives_opened ts o).flows (Run.flows_storeCapsLock _)).interpret ts).leave _

end Engine

end KeySynth
