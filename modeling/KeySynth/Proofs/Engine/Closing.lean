import KeySynth.Proofs.Engine.Emission

/-!
How a send leaves the ledger.

At its end a send leaves the ledger as its events have made it, or as it was when the send began, or
takes what is down from the system again and leaves the rest of the ledger alone.
-/

namespace KeySynth

namespace Run

variable {P : Type} [Platform P] {before : Holds} {r s : Run P}

/-- How the end `s` of a run goes with `r`, when all has been put back; `before` is the ledger at
the beginning. -/
inductive Closes (before : Holds) (r s : Run P) : Prop where
  | kept (ledger : s.ledger = r.ledger) (journal : s.journal = r.journal)
  | undone (holds : s.ledger.toHolds = before)
  | reread (ledger : s.ledger = r.ledger.resync (Engine.heldDown s.platform))

/-- If there is a batch it remembers `before`. -/
def Remembers (before : Holds) (r : Run P) : Prop := ∀ b, r.batch = some b → b.snapshot = before

lemma Remembers.emits {es : List EventRecord} (h : r.Remembers before) (hes : Emits r es s) :
    s.Remembers before := by
  have hpush : ∀ (b : Batch) e, (b.push e).snapshot = b.snapshot := fun b e => (b.push_cases e).1
  refine hes.invariant (I := fun _ q => q.Remembers before) h (fun _ q e _ hq b hb => ?_)
    (fun _ q p _ hq => ?_) (fun _ _ _ _ _ _ _ _ hq => hq)
  · rw [batch_emit, Option.map_eq_some_iff] at hb
    obtain ⟨b₀, hb₀, rfl⟩ := hb
    exact (hpush _ _).trans (hq b₀ hb₀)
  · cases p with
    | mark ms =>
      intro b hb
      unfold Run.pause emitMark at hb
      dsimp only at hb
      split at hb
      · rename_i b₀ hb₀
        obtain rfl := Option.some_inj.mp hb
        exact (hpush _ _).trans (hq b₀ hb₀)
      · exact hq b hb
    | none | sleep ms | wait ms => exact hq

lemma closes_flush (h : r.Remembers before) : Closes before r r.flush := by
  unfold flush
  cases hb : r.batch with
  | none => exact .kept rfl rfl
  | some b =>
    have hs := h b hb
    dsimp only
    split_ifs
    · exact .undone hs
    · exact .kept rfl rfl
    · split
      · exact .kept rfl rfl
      · exact .undone hs
    · split
      · split_ifs
        · exact .reread rfl
        · exact .kept rfl rfl
      · exact .undone hs

end Run

namespace Engine

variable {P : Type} [Platform P] (e : Engine P) (ts : List Token) (o : SendOptions)

lemma remembers_opened : (e.opened ts o).Remembers e.resync.ledger.toHolds := by
  intro b hb
  rw [batch_opened] at hb
  split_ifs at hb
  cases hb
  rfl

/-- **How a send ends**: with the ledger that its events have come to, with the one it began with,
or with what the system says is down. -/
theorem closes_sendRun :
    Run.Closes e.resync.ledger.toHolds (e.typed ts o) (e.sendRun ts o) := by
  have h := e.remembers_opened ts o
  rw [sendRun_eq]
  unfold Run.leave
  split_ifs with hf
  · obtain ⟨b, hb⟩ := Option.isSome_iff_exists.mp ((Bool.and_eq_true _ _).mp hf).2
    obtain ⟨es, hes⟩ := e.emits_upTo ts o ts
    rw [Run.discard, hb]
    exact .undone (h.emits hes b hb)
  · obtain ⟨es, hes⟩ := e.emits_typed ts o
    exact Run.closes_flush (h.emits hes)

end Engine

end KeySynth
