import KeySynth.Proofs.Desktop.Recorder
import KeySynth.Proofs.Engine.Flow

/-!
Where events get to.

The desk of a run is the desktop that all its events would lead to. A run that injects event by
event has its platform's keys there all along; a batch gets them there when it is sent, unless
only part of it is taken or nothing at all.
-/

namespace KeySynth

namespace Run

section

variable {P : Type}

/-- What has been sent, in the form in which it travels and in order. -/
def sent (r : Run P) : List EventRecord :=
  r.journal.reverse.map (·.event.carried r.backend)

/-- The desktop that the events of the run lead to from `d`. -/
def desk (d : Desktop) (r : Run P) : Desktop := r.sent.foldl Desktop.apply d

lemma desk_eq (d : Desktop) (r : Run P) :
    (r.desk d).altgr = d.altgr ∧ (r.desk d).physical = d.physical :=
  ⟨(d.foldl_apply_eq r.sent).1, (d.foldl_apply_eq r.sent).2.1⟩

end

variable {P : Type} [Platform P]

@[simp] lemma sent_emit (r : Run P) (e : EventRecord) :
    (r.emit e).sent = r.sent ++ [e.carried r.backend] := by
  simp [sent, journal_emit, still_backend (r.still_emit e)]

@[simp] lemma sent_pause (r : Run P) (p : Pause) : (r.pause p).sent = r.sent := by
  rw [sent, sent, journal_pause, still_backend (r.still_pause p)]

@[simp] lemma desk_emit (d : Desktop) (r : Run P) (e : EventRecord) :
    (r.emit e).desk d = (r.desk d).apply (e.carried r.backend) := by
  simp [desk, List.foldl_append]

@[simp] lemma desk_pause (d : Desktop) (r : Run P) (p : Pause) :
    (r.pause p).desk d = r.desk d := by
  rw [desk, desk, sent_pause]

/-! ### The platform and the batch -/

/-- In a batch nothing reaches the platform. -/
lemma platform_emit_of_some {r : Run P} {b : Batch} (h : r.batch = some b) (e : EventRecord) :
    (r.emit e).platform = r.platform := by
  simp [emit, dispatch, yieldAfter, h]

lemma platform_emit_of_none {r : Run P} (h : r.batch = none) (e : EventRecord) :
    (r.emit e).platform = (Platform.inject r.platform #[e.carried r.backend]).2 ∨
      (r.emit e).platform =
        Platform.wait (Platform.inject r.platform #[e.carried r.backend]).2 0 := by
  simp only [emit, dispatch, yieldAfter, h]
  split_ifs
  · exact .inr rfl
  · exact .inl rfl

end Run

/-- An event joins a batch, or the batch is lost for good. -/
lemma Batch.push_cases (b : Batch) (e : EventRecord) :
    (b.push e).snapshot = b.snapshot ∧
      ((b.push e).discarded = false →
        b.discarded = false ∧ (b.push e).events = b.events.push e) := by
  unfold push discard
  split_ifs with h
  · exact ⟨rfl, fun h' => absurd (h.symm.trans h') (by decide)⟩
  · exact ⟨rfl, fun h' => nomatch h'⟩
  · exact ⟨rfl, fun h' => ⟨h', rfl⟩⟩

namespace Run

variable {P : Type} [Platform P] [Recorder P]

open Recorder

/-- The platform's keys are at the desk, or were where the run began and the batch has what leads
to the desk. -/
structure Delivers (d : Desktop) (before : Holds) (r : Run P) : Prop where
  mode : r.batch = none ↔ r.backend = .event
  direct : r.batch = none →
    (desktop r.platform).keys = (r.desk d).keys ∧ works r.platform
  pending : ∀ b, r.batch = some b →
    (desktop r.platform).keys = d.keys ∧ b.snapshot = before ∧
      (b.discarded = false → (b.events.toList.foldl Desktop.apply d).keys = (r.desk d).keys)

namespace Delivers

variable {d : Desktop} {before : Holds} {r : Run P} (h : Delivers d before r)
include h

lemma emit (e : EventRecord) : Delivers d before (r.emit e) where
  mode := by rw [batch_emit, Option.map_eq_none_iff, still_backend (r.still_emit e), h.mode]
  direct hb := by
    rw [batch_emit, Option.map_eq_none_iff] at hb
    obtain ⟨hk, hw⟩ := h.direct hb
    obtain ⟨hi, hw⟩ := works_inject (e.carried r.backend) hw
    rw [desk_emit]
    have hk' := hi.trans (Desktop.keys_apply_congr hk _)
    rcases platform_emit_of_none hb e with hp | hp <;> rw [hp]
    · exact ⟨hk', hw⟩
    · exact ⟨(keys_wait _ 0).trans hk', works_wait 0 hw⟩
  pending b hb := by
    rw [batch_emit, Option.map_eq_some_iff] at hb
    obtain ⟨b₀, hb₀, rfl⟩ := hb
    obtain ⟨hk, hs, hd⟩ := h.pending b₀ hb₀
    obtain ⟨hs', hp⟩ := b₀.push_cases (e.carried r.backend)
    rw [platform_emit_of_some hb₀, desk_emit]
    refine ⟨hk, hs'.trans hs, fun hn => ?_⟩
    obtain ⟨hn, he⟩ := hp hn
    rw [he, Array.toList_push, List.foldl_append]
    exact Desktop.keys_apply_congr (hd hn) _

lemma idle {q : P} (he : r.backend = .event) (hk : (desktop q).keys = (desktop r.platform).keys)
    (hw : works r.platform → works q) : Delivers d before { r with platform := q } := by
  have hb := h.mode.mpr he
  refine ⟨h.mode, fun _ => ?_, fun b hb' => nomatch hb.symm.trans hb'⟩
  exact ⟨hk.trans (h.direct hb).1, hw (h.direct hb).2⟩

lemma pause {p : Pause} (hp : p.Suits r.backend) : Delivers d before (r.pause p) := by
  cases p with
  | none => exact h
  | sleep ms => exact h.idle hp (keys_sleep _ ms) (works_sleep ms)
  | wait ms => exact h.idle hp (keys_wait _ ms) (works_wait ms)
  | mark ms =>
    unfold Run.pause emitMark
    dsimp only
    cases hb : r.batch with
    | none => exact h
    | some b =>
      obtain ⟨hk, hs, hd⟩ := h.pending b hb
      obtain ⟨hs', hp⟩ := b.push_cases (.delay ms)
      have hm : some (b.push (.delay ms)) = none ↔ r.backend = .event :=
        ⟨nofun, fun he => nomatch hb.symm.trans (h.mode.mpr he)⟩
      refine ⟨hm, nofun, fun b' hb' => ?_⟩
      obtain rfl := Option.some_inj.mp hb'
      refine ⟨hk, hs'.trans hs, fun hn => ?_⟩
      obtain ⟨hn, he⟩ := hp hn
      rw [he, Array.toList_push, List.foldl_append]
      exact hd hn

end Delivers

/-! ### How a run can end -/

/-- How the platform and the ledger can be left when the last event is on its way. -/
inductive Ending (d : Desktop) (before : Holds) (r s : Run P) : Prop where
  /-- All of it got there. -/
  | whole (keys : (desktop s.platform).keys = (r.desk d).keys) (ledger : s.ledger = r.ledger)
  /-- Nothing got there, and the ledger is as before. -/
  | nothing (keys : (desktop s.platform).keys = d.keys) (holds : s.ledger.toHolds = before)
  /-- Only part of an injected batch was taken, and the ledger is what the system says. -/
  | part {es : Array EventRecord} {n : Nat} (taken : n < es.size)
      (inject : Platform.inject r.platform es = (.ok n, s.platform))
      (logical : s.ledger.logical = Engine.heldDown s.platform)

variable {d : Desktop} {before : Holds} {r : Run P}

theorem Delivers.flush (h : Delivers d before r) : Ending d before r r.flush := by
  unfold Run.flush
  cases hb : r.batch with
  | none => exact .whole (h.direct hb).1 rfl
  | some b =>
    obtain ⟨hk, hs, hd⟩ := h.pending b hb
    dsimp only
    split_ifs with hdis hemp hplay
    · exact .nothing hk hs
    · have hd := hd (by simpa using hdis)
      rw [Array.isEmpty_iff.mp hemp] at hd
      exact .whole (hk.trans hd) rfl
    · have hd := hd (by simpa using hdis)
      split
      · rename_i u p hp
        exact .whole ((keys_play hp).trans ((Desktop.keys_foldl_congr hk _).trans hd)) rfl
      · rename_i f p hp
        exact .nothing ((keys_play_error hp).trans hk) hs
    · have hd := hd (by simpa using hdis)
      split
      · rename_i n p hp
        split_ifs with hn
        · exact .part hn hp rfl
        · have ht : b.events.toList.take n = b.events.toList :=
            List.take_of_length_le (by rw [Array.length_toList]; exact Nat.le_of_not_lt hn)
          have hk' := keys_inject hp
          rw [ht] at hk'
          exact .whole (hk'.trans ((Desktop.keys_foldl_congr hk _).trans hd)) rfl
      · rename_i f p hp
        exact .nothing ((keys_inject_error hp).trans hk) hs

/-- A batch that is dropped after a fault leaves nothing behind, whatever was to follow. -/
theorem Delivers.leave (h : Delivers d before r) {capsLock : Bool}
    (h' : Delivers d before (r.putBack capsLock)) :
    Ending d before (r.putBack capsLock) (r.leave capsLock) := by
  unfold Run.leave
  split_ifs with hf
  · rw [Bool.and_eq_true] at hf
    obtain ⟨b, hb⟩ := Option.isSome_iff_exists.mp hf.2
    obtain ⟨hk, hs, -⟩ := h.pending b hb
    rw [Run.discard, hb]
    exact .nothing hk hs
  · exact h'.flush

end Run

end KeySynth
