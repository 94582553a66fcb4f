import KeySynth.Proofs.Engine.AllOrNothing
import KeySynth.Proofs.Engine.Restore

/-!
What a desktop records of a send.

If everything gets through, a desktop records just what the run has sent, in order, whether event
by event or in one batch.
-/

namespace KeySynth

namespace Run

/-- Without a batch a working desktop records each event at once, and its keys follow. -/
lemma Emits.log {r s : Run Desktop} {es : List EventRecord} (h : Emits r es s)
    (hb : r.batch = none) (hw : r.platform.failing = false) :
    s.batch = none ∧ s.platform.failing = false ∧
      s.platform.log.events =
        r.platform.log.events ++ (es.filter (!·.isDelay)).toArray ∧
      s.platform.keys = (es.foldl Desktop.apply r.platform).keys := by
  refine h.invariant (I := fun es s => s.batch = none ∧ s.platform.failing = false ∧
    s.platform.log.events = r.platform.log.events ++ (es.filter (!·.isDelay)).toArray ∧
    s.platform.keys = (es.foldl Desktop.apply r.platform).keys)
    ⟨hb, hw, by simp, rfl⟩ (fun fs q e he hq => ?_) (fun fs q p _ hq => ?_)
    (fun _ _ _ _ _ _ _ _ hq => by exact hq)
  · obtain ⟨hb, hw, hlog, hkeys⟩ := hq
    have htake : (Platform.inject q.platform #[e.carried q.backend]).2 =
        q.platform.take .input #[e.carried q.backend] := by
      change (q.platform.inject _).2 = _
      rw [Desktop.inject_works hw]
    have hfail : (q.platform.take .input #[e.carried q.backend]).failing = false :=
      (q.platform.failing_take _ _).trans hw
    have hevents : (q.platform.take .input #[e.carried q.backend]).log.events =
        r.platform.log.events ++
          ((fs ++ [e.carried q.backend]).filter (!·.isDelay)).toArray := by
      rw [Desktop.log_take]
      simp [hlog, he]
    have htaken : (q.platform.take .input #[e.carried q.backend]).keys =
        ((fs ++ [e.carried q.backend]).foldl Desktop.apply r.platform).keys := by
      rw [Desktop.keys_take, List.foldl_append]
      exact Desktop.keys_foldl_congr hkeys _
    refine ⟨by rw [batch_emit, hb]; rfl, ?_⟩
    rcases platform_emit_of_none hb e with hp | hp <;> rw [hp, htake]
    · exact ⟨hfail, hevents, htaken⟩
    · exact ⟨hfail, hevents, htaken⟩
  · obtain ⟨hb, hw, hlog, hkeys⟩ := hq
    cases p with
    | none | sleep ms | wait ms =>
      rw [Pause.marks, List.append_nil]
      exact ⟨hb, hw, hlog, hkeys⟩
    | mark ms =>
      unfold Run.pause emitMark
      dsimp only
      rw [hb]
      have hmarks : (Pause.mark ms).marks.filter (!·.isDelay) = [] := rfl
      refine ⟨hb, hw, by rw [List.filter_append, hmarks, List.append_nil, hlog], ?_⟩
      rw [hkeys, ← Desktop.keys_foldl_filter _ (fs ++ _), List.filter_append, hmarks,
        List.append_nil, Desktop.keys_foldl_filter]

end Run

namespace Engine

/-- The batch of a send, if it goes in one, has room for everything. -/
def Fits {P : Type} [Platform P] (e : Engine P) (ts : List Token) (o : SendOptions) : Prop :=
  ∀ b, (e.typed ts o).batch = some b → b.discarded = false

instance {P : Type} [Platform P] (e : Engine P) (ts : List Token) (o : SendOptions) :
    Decidable (e.Fits ts o) :=
  decidable_of_iff ((e.typed ts o).batch.all (!·.discarded) = true) (by
    unfold Fits
    cases (e.typed ts o).batch <;> simp)

lemma fits_of_event {P : Type} [Platform P] {e : Engine P} {o : SendOptions}
    (h : e.backendFor o = .event) (ts : List Token) : e.Fits ts o := by
  intro b hb
  rw [(batch_typed h).2] at hb
  cases hb

variable {e : Engine Desktop} {ts : List Token} {o : SendOptions}

/-- **What a send gives out is recorded**, and the ledger and the keys stay as the last event has
left them, if no fault ends the text and everything gets through. -/
theorem recorded (hworks : e.platform.failing = false) (hfits : e.Fits ts o)
    (hfault : (e.upTo ts o ts).fault = none) :
    (e.sendRun ts o).platform.log.events =
        e.platform.log.events ++ (e.typed ts o).sent.toArray ∧
      (e.sendRun ts o).ledger = (e.typed ts o).ledger ∧
      (e.sendRun ts o).platform.keys = ((e.typed ts o).desk e.platform).keys := by
  obtain ⟨es, hes⟩ := e.emits_typed ts o
  have hsent : (e.typed ts o).sent = es.filter (!·.isDelay) := hes.sent
  rw [Run.desk, hsent, Desktop.keys_foldl_filter]
  by_cases hbatch : (e.backendFor o).isBatch = true
  · have hroom : ¬(e.backendFor o).ceiling < es.length := by
      rw [← Batch.given_discarded _ e.resync.ledger.toHolds,
        hfits _ (batch_of_emits hbatch hes).1]
      decide
    rw [sendRun_of_fault_none hbatch (by simp [hfault]) hes,
      if_neg (by simp [hroom, hworks])]
    dsimp only
    split_ifs with hemp
    · simp [hemp]
    · rw [Desktop.log_take, Desktop.keys_take]
      simp
  · have hevent : e.backendFor o = .event := not_not.mp (Backend.isBatch_iff.not.mp hbatch)
    obtain ⟨-, -, hlog, hkeys⟩ := hes.log (batch_opened_of_event hevent ts) hworks
    rw [sendRun_of_event hevent]
    exact ⟨hlog, rfl, hkeys⟩

/-- The text goes in a batch that is dropped, after a fault or for want of room. -/
def Dropped (e : Engine Desktop) (text : String) (o : SendOptions) : Prop :=
  e.backendFor o ≠ .event ∧
    ((e.send text o).1 ≠ .ok () ∨ ¬e.Fits (Token.ofText o.raw text) o)

/-- A batch that is dropped leaves the desktop alone; else what a text sends is recorded, whether
it meets a fault or not. -/
theorem recorded_or_dropped (hworks : e.platform.failing = false) {text : String}
    (hts : Token.ofText o.raw text ≠ []) :
    (e.Dropped text o ∧ (e.send text o).2.platform = e.platform) ∨
      (e.send text o).2.platform.log.events =
        e.platform.log.events ++ (e.typed (Token.ofText o.raw text) o).sent.toArray := by
  obtain ⟨es, hes⟩ := e.exists_givesOut text o
  have hemits : (e.opened (Token.ofText o.raw text) o).Emits es
      (e.typed (Token.ofText o.raw text) o) := by
    rw [GivesOut] at hes
    rwa [if_neg (by simpa using hts)] at hes
  have hsent : (e.typed (Token.ofText o.raw text) o).sent = es.filter (!·.isDelay) := hemits.sent
  by_cases hbatch : (e.backendFor o).isBatch = true
  · rcases send_cases hbatch hes with ⟨hlost, hundone⟩ | ⟨-, hp⟩
    · refine .inl ⟨⟨backendFor_ne_event hbatch, hlost.imp_right fun h hfits => ?_⟩,
        hundone.platform⟩
      have hroom := hfits _ (batch_of_emits hbatch hemits).1
      rw [← Bool.not_eq_true, Batch.given_discarded] at hroom
      exact h.elim hroom fun hfail => absurd (hworks.symm.trans hfail.2) (by decide)
    · rw [hp, hsent]
      split_ifs with hemp
      · exact .inr (by simp [hemp])
      · exact .inr (by simp [Desktop.log_take])
  · have hevent : e.backendFor o = .event := not_not.mp (Backend.isBatch_iff.not.mp hbatch)
    obtain ⟨-, -, hlog, -⟩ := hemits.log (batch_opened_of_event hevent _) hworks
    have hsend : (e.send text o).2 = (e.typed (Token.ofText o.raw text) o).toEngine := by
      rw [send]
      simp only [List.isEmpty_iff, if_neg hts, Run.outcome, sendRun_of_event hevent]
    rw [hsend, hsent]
    exact .inr hlog

end Engine

end KeySynth
