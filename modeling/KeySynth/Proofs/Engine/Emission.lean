import KeySynth.Proofs.Engine.Delivery
import KeySynth.Proofs.Engine.Act

/-!
What a run gives out, in order.

`Emits` goes along with a run and collects the events in the form in which they travel, and the
marks of the pauses. A batch holds just that as long as it has room, and nothing afterwards;
without a batch all of it reaches the platform at once. So there are three ways for a send to end:
all of it got there, nothing did, or the first events of a batch did.
-/

namespace KeySynth

@[simp] lemma EventRecord.isDelay_carried (b : Backend) (e : EventRecord) :
    (e.carried b).isDelay = e.isDelay := by
  cases e <;> rfl

/-- The mark that a pause leaves in a batch. -/
def Pause.marks : Pause → List EventRecord
  | .mark ms => [.delay ms]
  | .none | .sleep _ | .wait _ => []

namespace Batch

/-- The batch that has been given `es`: all of them, or none if they are too many. -/
def given (ceiling : Nat) (before : Holds) (es : List EventRecord) : Batch :=
  if es.length ≤ ceiling then ⟨ceiling, es.toArray, before, false⟩
  else ⟨ceiling, #[], before, true⟩

variable (ceiling : Nat) (before : Holds) (es : List EventRecord)

lemma given_push (e : EventRecord) :
    (given ceiling before es).push e = given ceiling before (es ++ [e]) := by
  unfold given push size discard
  by_cases hfit : es.length ≤ ceiling
  · by_cases hroom : es.length = ceiling
    · simp [hroom]
    · have hlt : es.length < ceiling := Nat.lt_of_le_of_ne hfit hroom
      simp [hfit, Nat.not_le.mpr hlt, Nat.succ_le_of_lt hlt]
  · have hover : ¬es.length + 1 ≤ ceiling := fun h => hfit (Nat.le_of_succ_le h)
    simp [hfit, hover]

lemma snapshot_given : (given ceiling before es).snapshot = before := by
  unfold given
  split_ifs <;> rfl

lemma given_discarded : (given ceiling before es).discarded = true ↔ ceiling < es.length := by
  unfold given
  split_ifs with h
  · simp [h]
  · simp [Nat.not_le.mp h]

end Batch

namespace Run

variable {P : Type} [Platform P]

/-- The second run comes from the first by giving out `es`. -/
inductive Emits : Run P → List EventRecord → Run P → Prop where
  | refl (r : Run P) : Emits r [] r
  | emit {r s : Run P} {es : List EventRecord} {e : EventRecord} :
      Emits r es s → e.isDelay = false → Emits r (es ++ [e.carried s.backend]) (s.emit e)
  | pause {r s : Run P} {es : List EventRecord} {p : Pause} :
      Emits r es s → p.Suits s.backend → Emits r (es ++ p.marks) (s.pause p)
  | conclude {r s : Run P} {es : List EventRecord} (t : Token)
      (said : Option (Modifier × Explicit)) : Emits r es s → Emits r es (s.conclude t said)

lemma Flows.emits {r s : Run P} (h : Flows (fun e => e.isDelay = false) r s) :
    ∃ es, Emits r es s := by
  induction h with
  | refl => exact ⟨[], .refl _⟩
  | emit _ he ih =>
    obtain ⟨es, ih⟩ := ih
    exact ⟨_, ih.emit he⟩
  | pause _ hp ih =>
    obtain ⟨es, ih⟩ := ih
    exact ⟨_, ih.pause hp⟩

lemma Course.emits {K : StrokeLaw} {r s : Run P} (h : Course K r s) : ∃ es, Emits r es s := by
  refine (h.flows ⟨?_, ?_, ?_, ?_, ?_, ?_⟩ rfl).emits <;> intros <;> rfl

namespace Emits

variable {r s t : Run P} {es fs : List EventRecord}

lemma trans (h : Emits r es s) (h' : Emits s fs t) : Emits r (es ++ fs) t := by
  induction h' with
  | refl => rwa [List.append_nil]
  | emit _ he ih => rw [← List.append_assoc]; exact ih.emit he
  | pause _ hp ih => rw [← List.append_assoc]; exact ih.pause hp
  | conclude t said _ ih => exact ih.conclude t said

lemma act (h : Emits r es s) (t : Token) : ∃ fs, Emits r fs (s.act t) := by
  obtain ⟨q, hq, he⟩ := s.act_eq (strokes_any t)
  obtain ⟨fs, hfs⟩ := hq.emits
  rw [he]
  exact ⟨_, (h.trans hfs).conclude t _⟩

lemma interpret (h : Emits r es s) (ts : List Token) : ∃ fs, Emits r fs (s.interpret ts) :=
  interpret_invariant (I := fun s => ∃ fs, Emits r fs s)
    (fun _ t _ hs => hs.elim fun _ h => h.act t) ⟨es, h⟩

/-- What each event, each pause and the end of each token keeps is kept. -/
theorem invariant {I : List EventRecord → Run P → Prop} (h : Emits r es s) (hr : I [] r)
    (hemit : ∀ fs q e, e.isDelay = false → I fs q → I (fs ++ [e.carried q.backend]) (q.emit e))
    (hpause : ∀ fs q p, p.Suits q.backend → I fs q → I (fs ++ p.marks) (q.pause p))
    (hconclude : ∀ fs (q : Run P) l mode base mods f, l.logical = q.ledger.logical → I fs q →
      I fs { q with ledger := l, raw := mode, blindBase := base, keyMods := mods, fault := f }) :
    I es s := by
  induction h with
  | refl => exact hr
  | emit _ he ih => exact hemit _ _ _ he ih
  | pause _ hp ih => exact hpause _ _ _ hp ih
  | @conclude s es t said _ ih =>
    obtain ⟨l, mode, base, mods, f, hl, he⟩ := s.conclude_eq t said
    rw [he]
    exact hconclude _ _ l mode base mods f hl ih

lemma backend (h : Emits r es s) : s.backend = r.backend :=
  h.invariant (I := fun _ q => q.backend = r.backend) rfl
    (fun _ q e _ hq => (still_backend (q.still_emit e)).trans hq)
    (fun _ q p _ hq => (still_backend (q.still_pause p)).trans hq)
    (fun _ _ _ _ _ _ _ _ hq => hq)

/-- A run's events are what it gives out but for the marks. -/
theorem sent (h : Emits r es s) : s.sent = r.sent ++ es.filter (!·.isDelay) := by
  refine h.invariant (I := fun es q => q.sent = r.sent ++ es.filter (!·.isDelay)) (by simp)
    (fun fs q e he hq => ?_) (fun fs q p _ hq => ?_) (fun _ _ _ _ _ _ _ _ hq => hq)
  · rw [sent_emit, hq]
    simp [he]
  · rw [sent_pause, hq]
    cases p <;> simp [Pause.marks, EventRecord.isDelay]

/-- **A batch is given everything**, and nothing else happens as long as it is open. -/
theorem batch (h : Emits r es s) {ceiling : Nat} {before : Holds}
    (hb : r.batch = some (.new ceiling before)) (hback : r.backend ≠ .event) :
    s.batch = some (.given ceiling before es) ∧ s.platform = r.platform := by
  refine (h.invariant (I := fun es q => q.backend ≠ .event ∧
    q.batch = some (.given ceiling before es) ∧ q.platform = r.platform) ⟨hback, hb, rfl⟩
    (fun fs q e _ hq => ?_) (fun fs q p hp hq => ?_) (fun _ _ _ _ _ _ _ _ hq => hq)).2
  · obtain ⟨hback, hb, hp⟩ := hq
    refine ⟨still_backend (q.still_emit e) ▸ hback, ?_, (platform_emit_of_some hb e).trans hp⟩
    rw [batch_emit, hb, Option.map_some, Batch.given_push]
  · obtain ⟨hback, hb, hpl⟩ := hq
    cases p with
    | none =>
      rw [Pause.marks, List.append_nil]
      exact ⟨hback, hb, hpl⟩
    | mark ms =>
      unfold Run.pause emitMark
      dsimp only
      rw [hb, Pause.marks, ← Batch.given_push]
      exact ⟨hback, rfl, hpl⟩
    | sleep ms | wait ms => exact absurd hp hback

/-- The platform's keys are on their way to the desk, whatever has been given out. -/
lemma delivers [Recorder P] {d : Desktop} {before : Holds} (h : Emits r es s)
    (hr : Delivers d before r) : Delivers d before s :=
  h.invariant (I := fun _ q => Delivers d before q) hr (fun _ _ e _ hq => hq.emit e)
    (fun _ _ _ hp hq => hq.pause hp)
    fun _ _ _ _ _ _ _ _ hq => ⟨hq.mode, hq.direct, hq.pending⟩

end Emits

end Run

namespace Engine

variable {P : Type} [Platform P]

lemma emits_upTo (e : Engine P) (ts : List Token) (o : SendOptions) (us : List Token) :
    ∃ es, (e.opened ts o).Emits es (e.upTo ts o us) := by
  obtain ⟨es, hes⟩ :=
    (Run.Course.storeCapsLock (K := fun _ _ _ => True) (e.opened ts o) trivial).emits
  exact hes.interpret us

/-- From its opening to its end a send gives out one list of events. -/
theorem emits_typed (e : Engine P) (ts : List Token) (o : SendOptions) :
    ∃ es, (e.opened ts o).Emits es (e.typed ts o) := by
  obtain ⟨es, hes⟩ := e.emits_upTo ts o ts
  obtain ⟨fs, hfs⟩ := (Run.Course.putBack (K := fun _ _ _ => True) (e.upTo ts o ts) trivial
    (e.opened ts o).storesCapsLock).emits
  exact ⟨_, hes.trans hfs⟩

/-- What a send gives out from its opening to its end. -/
def GivesOut (e : Engine P) (text : String) (o : SendOptions) (es : List EventRecord) : Prop :=
  let ts := Token.ofText o.raw text
  if ts.isEmpty then es = [] else (e.opened ts o).Emits es (e.typed ts o)

lemma exists_givesOut (e : Engine P) (text : String) (o : SendOptions) :
    ∃ es, e.GivesOut text o es := by
  unfold GivesOut
  dsimp only
  split_ifs
  · exact ⟨[], rfl⟩
  · exact e.emits_typed _ o

/-! ### How a send can end -/

open Recorder

variable [Recorder P] {e : Engine P} {o : SendOptions}

lemma delivers_opened (hworks : e.backendFor o = .event → works e.platform) (ts : List Token) :
    Run.Delivers (desktop e.platform) e.resync.ledger.snapshot (e.opened ts o) := by
  have hb := e.batch_opened ts o
  have hm : (e.opened ts o).batch = none ↔ e.backendFor o = .event := by
    rw [hb]
    cases e.backendFor o <;> simp [Backend.isBatch]
  refine ⟨hm, fun hn => ⟨rfl, hworks (hm.mp hn)⟩, fun b hs => ?_⟩
  rw [hb] at hs
  split_ifs at hs
  cases hs
  exact ⟨rfl, rfl, fun _ => rfl⟩

/-- **How a send can end**, on any platform that records on a desktop. -/
theorem ending_sendRun (hworks : e.backendFor o = .event → works e.platform) (ts : List Token) :
    Run.Ending (desktop e.platform) e.resync.ledger.snapshot (e.typed ts o) (e.sendRun ts o) := by
  obtain ⟨es, hes⟩ := e.emits_upTo ts o ts
  obtain ⟨fs, hfs⟩ := e.emits_typed ts o
  have h := delivers_opened hworks ts
  exact (hes.delivers h).leave (hfs.delivers h)

end Engine

end KeySynth
