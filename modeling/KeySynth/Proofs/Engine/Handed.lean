import KeySynth.Proofs.Engine.Signed

/-!
What a system is handed.

The journal of a run has what it has sent. Nothing else is ever handed to the system, event by event
or in a batch, and whatever the system makes of it.
-/

namespace KeySynth

/-- The system comes to another state by calls, all of whose events have the property `Q`. -/
inductive Handed {P : Type} [Platform P] (Q : EventRecord → Prop) (p : P) : P → Prop where
  | refl : Handed Q p p
  | inject {q : P} {es : Array EventRecord} :
      Handed Q p q → (∀ ev ∈ es, Q ev) → Handed Q p (Platform.inject q es).2
  | play {q : P} {es : Array EventRecord} :
      Handed Q p q → (∀ ev ∈ es, Q ev) → Handed Q p (Platform.play q es).2
  | sleep {q : P} (ms : Nat) : Handed Q p q → Handed Q p (Platform.sleep q ms)
  | wait {q : P} (ms : Nat) : Handed Q p q → Handed Q p (Platform.wait q ms)

variable {P : Type} [Platform P] {p : P}

lemma Handed.mono {Q Q' : EventRecord → Prop} {q : P} (h : Handed Q p q)
    (hQ : ∀ ev, Q ev → Q' ev) : Handed Q' p q := by
  induction h with
  | refl => exact .refl
  | inject _ hes ih => exact ih.inject fun ev hev => hQ ev (hes ev hev)
  | play _ hes ih => exact ih.play fun ev hev => hQ ev (hes ev hev)
  | sleep ms _ ih => exact ih.sleep ms
  | wait ms _ ih => exact ih.wait ms

lemma Batch.mem_push {b : Batch} {e ev : EventRecord} (h : ev ∈ (b.push e).events) :
    ev ∈ b.events ∨ ev = e := by
  unfold push at h
  split_ifs at h
  · exact .inl h
  · simp [discard] at h
  · exact Array.mem_push.mp h

namespace Run

variable {r s : Run P}

/-- The event is one that the run has sent, or the mark of a pause. -/
def Travels (r : Run P) (ev : EventRecord) : Prop := ev ∈ r.sent ∨ ev.isDelay = true

/-- The system has been handed what the run has sent and nothing else, and nothing else is in the
batch. -/
structure Hands (p : P) (r : Run P) : Prop where
  platform : Handed r.Travels p r.platform
  batch : ∀ b, r.batch = some b → ∀ ev ∈ b.events, r.Travels ev

namespace Hands

variable (h : r.Hands p)
include h

lemma emit (e : EventRecord) : (r.emit e).Hands p := by
  have hold : ∀ ev, r.Travels ev → (r.emit e).Travels ev := fun ev hev =>
    hev.imp_left fun hsent => by
      rw [sent_emit]
      exact List.mem_append_left _ hsent
  have hnew : (r.emit e).Travels (e.carried r.backend) := by
    refine .inl ?_
    rw [sent_emit]
    exact List.mem_append_right _ (List.mem_singleton.mpr rfl)
  have hplatform := h.platform.mono hold
  constructor
  · cases hb : r.batch with
    | some b => rwa [platform_emit_of_some hb]
    | none =>
      have hinject : Handed (r.emit e).Travels p
          (Platform.inject r.platform #[e.carried r.backend]).2 :=
        hplatform.inject fun ev hev => Array.mem_singleton.mp hev ▸ hnew
      rcases platform_emit_of_none hb e with hp | hp <;> rw [hp]
      · exact hinject
      · exact hinject.wait 0
  · intro b hb ev hev
    rw [batch_emit, Option.map_eq_some_iff] at hb
    obtain ⟨b, hb, rfl⟩ := hb
    rcases Batch.mem_push hev with hev | rfl
    · exact hold ev (h.batch b hb ev hev)
    · exact hnew

lemma pause (p' : Pause) : (r.pause p').Hands p := by
  cases p' with
  | none => exact h
  | sleep ms => exact ⟨h.platform.sleep ms, h.batch⟩
  | wait ms => exact ⟨h.platform.wait ms, h.batch⟩
  | mark ms =>
    unfold Run.pause emitMark
    dsimp only
    cases hb : r.batch with
    | none => exact ⟨h.platform, h.batch⟩
    | some b =>
      refine ⟨h.platform, fun b' hb' ev hev => ?_⟩
      obtain rfl := Option.some_inj.mp hb'
      rcases Batch.mem_push hev with hev | rfl
      · exact h.batch b hb ev hev
      · exact .inr rfl

lemma course {K : StrokeLaw} (hc : Course K r s) : s.Hands p :=
  hc.flows_any.invariant (fun _ e _ hs => hs.emit e) (fun _ p' _ hs => hs.pause p') h

/-- Whatever becomes of a batch, it is handed over once if at all. -/
lemma flush : r.flush.Hands p := by
  unfold Run.flush
  cases hb : r.batch with
  | none => exact ⟨h.platform, h.batch⟩
  | some b =>
    have hes := h.batch b hb
    have hplay := h.platform.play hes
    have hinject := h.platform.inject hes
    dsimp only
    split_ifs
    · exact ⟨h.platform, nofun⟩
    · exact ⟨h.platform, nofun⟩
    · split <;> rename_i hp <;> rw [hp] at hplay <;> exact ⟨hplay, nofun⟩
    · split <;> rename_i hp <;> rw [hp] at hinject
      · split_ifs <;> exact ⟨hinject, nofun⟩
      · exact ⟨hinject, nofun⟩

lemma discard : r.discard.Hands p := by
  unfold Run.discard
  cases hb : r.batch with
  | none => exact ⟨h.platform, h.batch⟩
  | some b => exact ⟨h.platform, nofun⟩

end Hands

end Run

namespace Engine

variable {e : Engine P} {q : Request} {r : Run P}

lemma hands_start (e : Engine P) (mode : SendMode) (literal : RawMode)
    (target : Option WindowId) : (e.start mode literal target).Hands e.platform where
  platform := .refl
  batch b hb ev hev := by
    obtain ⟨c, k, before, hnew⟩ : ∃ (c : Bool) (k : Nat) (before : Holds),
        (e.start mode literal target).batch = if c then some (.new k before) else none :=
      ⟨_, _, _, rfl⟩
    rw [hnew] at hb
    split_ifs at hb
    obtain rfl := Option.some_inj.mp hb
    cases Array.not_mem_empty ev hev

/-- **The system is handed what a request sends and nothing else**, whatever it makes of it. -/
theorem handed_serve (hr : e.runOf q = some r) :
    Handed r.Travels e.platform (e.serve q).platform := by
  have hserve : (e.serve q).platform = r.platform := by
    rw [serve_eq, hr]
    rfl
  have hopened : ∀ ts o, (e.opened ts o).Hands e.platform := fun ts o =>
    ⟨.refl, (e.resync.hands_start (o.mode.getD e.settings.sendMode) o.raw o.target).batch⟩
  have hend : r.Hands e.platform := runOf_induction (I := fun s => s.Hands e.platform)
    (K := fun _ _ _ => True) trivial (fun _ _ hc h => h.course hc)
    (fun _ _ _ _ _ _ h => ⟨h.platform, h.batch⟩) (fun _ h => h.flush) (fun _ h => h.discard)
    q.strikes_any hopened (e.hands_start _ _ _) hr
  rw [hserve]
  exact hend.platform

end Engine

end KeySynth
