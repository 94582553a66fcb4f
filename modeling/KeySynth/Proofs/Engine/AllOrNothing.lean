import KeySynth.Proofs.Engine.Emission

/-!
A batch gets through whole or leaves nothing behind.

Until the batch is sent the platform is not touched. There are three ways to lose the batch: a
fault, more events than fit, and a call that fails. Each of them puts the ledger back to where it
was when the batch was begun.
-/

namespace KeySynth

namespace Run

section

variable {P : Type} [Platform P] (r : Run P)

omit [Platform P] in
lemma outcome_eq_ok : r.outcome.1 = .ok () ↔ r.fault = none := by
  unfold outcome
  cases r.fault <;> simp

omit [Platform P] in
lemma outcome_eq_error {f : Fault} : r.outcome.1 = .error f ↔ r.fault = some f := by
  unfold outcome
  cases r.fault <;> simp

lemma fault_leave (capsLock : Bool) : (r.leave capsLock).fault = r.fault := by
  obtain ⟨s, p, l, b, hs, he⟩ := r.leave_eq capsLock
  rw [he]
  rcases hs with rfl | rfl
  · rfl
  · exact congrArg (·.fault) (r.flows_putBack capsLock).still

/-- A batch is sent in one call if at all. -/
lemma platform_flush : r.flush.platform = r.platform ∨
    ∃ es, r.flush.platform = (Platform.inject r.platform es).2 ∨
      r.flush.platform = (Platform.play r.platform es).2 := by
  unfold flush
  cases r.batch with
  | none => exact .inl rfl
  | some b =>
    dsimp only
    split_ifs
    · exact .inl rfl
    · exact .inl rfl
    · refine .inr ⟨b.events, .inr ?_⟩
      split <;> simp_all [rollback]
    · refine .inr ⟨b.events, .inl ?_⟩
      split
      · split_ifs <;> simp_all [resync, Engine.resync]
      · simp_all [rollback]

end

/-- What a desktop is left with once a batch has been given `es`. -/
lemma flush_given {r : Run Desktop} {k : Backend} {before : Holds} {es : List EventRecord}
    (hk : r.backend = k) (hb : r.batch = some (.given k.ceiling before es)) (hback : k ≠ .event) :
    r.flush =
      if k.ceiling < es.length ∨ es ≠ [] ∧ r.platform.failing = true then
        { r with batch := none }.rollback before
      else
        { r with
          batch := none
          platform := if es = [] then r.platform else r.platform.take k es.toArray } := by
  unfold flush
  rw [hb, Batch.given]
  by_cases hover : k.ceiling < es.length
  · rw [if_neg (Nat.not_le.mpr hover), if_pos (.inl hover)]
    rfl
  rw [if_pos (Nat.not_lt.mp hover)]
  by_cases hemp : es = []
  · simp [hemp]
  have hsome : es.toArray.isEmpty = false := by simp [hemp]
  by_cases hfail : r.platform.failing = true
  · rw [if_pos (.inr ⟨hemp, hfail⟩)]
    simp only [hsome, Bool.false_eq_true, if_false, Platform.play, Platform.inject, Desktop.play,
      Desktop.inject, hfail, if_true, ite_self]
  · have hthrough : ¬(k.ceiling < es.length ∨ es ≠ [] ∧ r.platform.failing = true) := by tauto
    rw [if_neg hthrough]
    simp only [hk, hsome, hemp, Bool.false_eq_true, if_false, Platform.play, Platform.inject,
      Desktop.play, Desktop.inject, hfail, Batch.size, Nat.lt_irrefl]
    cases k with
    | event => exact absurd rfl hback
    | input | play => simp

end Run

namespace Engine

section

variable {P : Type} [Platform P] {e : Engine P} {o : SendOptions} {ts : List Token}

/-- The second engine is the first as if nothing had been sent, its ledger brought up to date. -/
structure Undone (e e' : Engine P) : Prop where
  platform : e'.platform = e.platform
  holds : e'.ledger.toHolds = { e.ledger.toHolds with
    logical := heldDown e.platform
    nonIgnored := e.ledger.nonIgnored ∩ heldDown e.platform }

/-- The system of the second engine is that of the first, or what one call makes of it. -/
def OneCall (e e' : Engine P) : Prop :=
  e'.platform = e.platform ∨ ∃ es, e'.platform = (Platform.inject e.platform es).2 ∨
    e'.platform = (Platform.play e.platform es).2

variable (hbatch : (e.backendFor o).isBatch = true)
include hbatch

lemma backendFor_ne_event : e.backendFor o ≠ .event := Backend.isBatch_iff.mp hbatch

/-- A batch that is still open has been given what the run has given out. -/
lemma batch_of_emits {es : List EventRecord} {s : Run P} (h : (e.opened ts o).Emits es s) :
    s.batch = some (.given (e.backendFor o).ceiling e.resync.ledger.toHolds es) ∧
      s.platform = e.platform :=
  h.batch (by rw [batch_opened, if_pos hbatch]; rfl) (backendFor_ne_event hbatch)

lemma sendRun_batch : e.sendRun ts o =
    if (e.upTo ts o ts).fault.isSome then (e.upTo ts o ts).discard
    else (e.typed ts o).flush := by
  obtain ⟨es, hes⟩ := e.emits_upTo ts o ts
  rw [sendRun_eq, Run.leave, (batch_of_emits hbatch hes).1, Option.isSome_some, Bool.and_true]
  rfl

/-- **A batch is sent in one call**, and nothing else is asked of the platform. -/
theorem oneCall_send (text : String) : e.OneCall (e.send text o).2 := by
  unfold OneCall send
  dsimp only
  split_ifs
  · exact .inl rfl
  · set ts := Token.ofText o.raw text
    rw [Run.outcome, sendRun_batch hbatch]
    split_ifs
    · obtain ⟨es, hes⟩ := e.emits_upTo ts o ts
      obtain ⟨hb, hp⟩ := batch_of_emits hbatch hes
      rw [Run.discard, hb]
      exact .inl hp
    · obtain ⟨es, hes⟩ := e.emits_typed ts o
      rw [← (batch_of_emits hbatch hes).2]
      exact (e.typed ts o).platform_flush

end

/-- A batch of `es` is lost: to a fault, for want of room, or because nothing gets through. -/
def Lost (e : Engine Desktop) (text : String) (o : SendOptions) (es : List EventRecord) : Prop :=
  (e.send text o).1 ≠ .ok () ∨ (e.backendFor o).ceiling < es.length ∨
    es ≠ [] ∧ e.platform.failing = true

variable {e : Engine Desktop} {o : SendOptions} {ts : List Token}
  (hbatch : (e.backendFor o).isBatch = true)
include hbatch

lemma undone_rollback {s : Run Desktop} {es : List EventRecord}
    (h : (e.opened ts o).Emits es s) :
    Undone e ({ s with batch := none }.rollback e.resync.ledger.toHolds).toEngine :=
  ⟨(batch_of_emits hbatch h).2, rfl⟩

lemma undone_of_fault (hf : (e.upTo ts o ts).fault.isSome = true) :
    Undone e (e.sendRun ts o).toEngine := by
  obtain ⟨es, hes⟩ := e.emits_upTo ts o ts
  rw [sendRun_batch hbatch, if_pos hf, Run.discard, (batch_of_emits hbatch hes).1]
  simp only [Batch.snapshot_given]
  exact undone_rollback hbatch hes

/-- Without a fault the batch is all that counts. -/
lemma sendRun_of_fault_none {es : List EventRecord} (hf : ¬(e.upTo ts o ts).fault.isSome = true)
    (hes : (e.opened ts o).Emits es (e.typed ts o)) :
    e.sendRun ts o =
      if (e.backendFor o).ceiling < es.length ∨ es ≠ [] ∧ e.platform.failing = true then
        { e.typed ts o with batch := none }.rollback e.resync.ledger.toHolds
      else
        { e.typed ts o with
          batch := none
          platform :=
            if es = [] then e.platform else e.platform.take (e.backendFor o) es.toArray } := by
  obtain ⟨hb, hp⟩ := batch_of_emits hbatch hes
  rw [sendRun_batch hbatch, if_neg hf,
    Run.flush_given hes.backend hb (backendFor_ne_event hbatch), hp]
  rfl

lemma send_cases {text : String} {es : List EventRecord} (hes : e.GivesOut text o es) :
    e.Lost text o es ∧ e.Undone (e.send text o).2 ∨
      ¬e.Lost text o es ∧ (e.send text o).2.platform =
        if es = [] then e.platform else e.platform.take (e.backendFor o) es.toArray := by
  unfold GivesOut at hes
  unfold Lost send
  dsimp only at hes ⊢
  set ts := Token.ofText o.raw text
  by_cases hts : ts.isEmpty = true
  · rw [if_pos hts] at hes
    subst hes
    exact .inr (by simp [hts])
  rw [if_neg hts] at hes
  rw [if_neg hts]
  have hok : (e.sendRun ts o).outcome.1 = .ok () ↔ (e.upTo ts o ts).fault = none := by
    rw [Run.outcome_eq_ok, sendRun_eq, Run.fault_leave]
  by_cases hf : (e.upTo ts o ts).fault.isSome = true
  · have hfail : (e.sendRun ts o).outcome.1 ≠ .ok () := by
      rw [Ne, hok]
      exact Option.isSome_iff_ne_none.mp hf
    exact .inl ⟨.inl hfail, undone_of_fault hbatch hf⟩
  have heq := sendRun_of_fault_none hbatch hf hes
  by_cases hlost : (e.backendFor o).ceiling < es.length ∨ es ≠ [] ∧ e.platform.failing = true
  · rw [if_pos hlost] at heq
    refine .inl ⟨.inr hlost, ?_⟩
    rw [Run.outcome, heq]
    exact undone_rollback hbatch hes
  · rw [if_neg hlost] at heq
    refine .inr ⟨fun h => h.elim (fun h => h (hok.mpr (by simpa using hf))) hlost, ?_⟩
    rw [Run.outcome, heq]

/-- **A batch send is all or nothing.** Either the one call carries all that the text comes to,
marks included and in order, or the platform and the ledger are as if nothing had been sent. No
system is called twice, even if the call fails. -/
theorem send_all_or_nothing (text : String) :
    (∀ {P : Type} [Platform P] (e : Engine P), (e.backendFor o).isBatch = true →
      e.OneCall (e.send text o).2) ∧
    ∃ es, e.GivesOut text o es ∧
      (e.send text o).2.platform.log.sleeps = e.platform.log.sleeps ∧
      (e.send text o).2.platform.log.waits = e.platform.log.waits ∧
      (e.send text o).2.platform.log.flushes.size ≤ e.platform.log.flushes.size + 1 ∧
      (e.Lost text o es → e.Undone (e.send text o).2) ∧
      (¬e.Lost text o es → (e.send text o).2.platform =
        if es = [] then e.platform else e.platform.take (e.backendFor o) es.toArray) := by
  refine ⟨fun _ hbatch => oneCall_send hbatch text, ?_⟩
  obtain ⟨es, hes⟩ := e.exists_givesOut text o
  refine ⟨es, hes, ?_⟩
  rcases send_cases hbatch hes with ⟨hlost, hu⟩ | ⟨hkept, hp⟩
  · rw [hu.platform]
    exact ⟨rfl, rfl, Nat.le_succ _, fun _ => hu, fun hkept => absurd hlost hkept⟩
  · refine ⟨?_, ?_, ?_, fun hlost => absurd hlost hkept, fun _ => hp⟩
    all_goals
      rw [hp]
      split_ifs
      · simp
      · simp [Desktop.log_take]

omit hbatch in
/-- A fault at its end undoes a whole text. -/
theorem send_undone_of_fault :
    Undone (Engine.new Desktop.new { sendMode := .input })
      ((Engine.new Desktop.new { sendMode := .input }).send "a{U+}" .plain).2 := by
  obtain ⟨-, es, -, -, -, -, hlost, -⟩ := send_all_or_nothing
    (e := Engine.new Desktop.new { sendMode := .input }) (o := .plain) rfl "a{U+}"
  exact hlost (.inl (by decide +kernel))

end Engine

end KeySynth
