import Mathlib.Data.List.Induction
import Mathlib.Tactic.Common
import KeySynth.Batch

/-!
A batch is whole, or it is nothing.

What is pushed to a batch stays there, in its order, until it is discarded or a push is too many.
From then on the batch is empty, whatever else is pushed. What has become of a batch is told from
the calls on it alone (`left`), one call at a time.
-/

namespace KeySynth.Batch

/-- What may be asked of a batch. -/
inductive Call where
  | push (e : EventRecord)
  | discard
deriving DecidableEq

def Call.event? : Call → Option EventRecord
  | .push e => some e
  | .discard => none

/-- The events that the calls push. -/
def pushed (calls : List Call) : List EventRecord := calls.filterMap Call.event?

def step (b : Batch) : Call → Batch
  | .push e => b.push e
  | .discard => b.discard

def run (b : Batch) (calls : List Call) : Batch := calls.foldl step b

/-- The calls lose the batch: they discard it, or push more than it may hold. -/
def Lost (ceiling : Nat) (calls : List Call) : Prop :=
  .discard ∈ calls ∨ ceiling < (pushed calls).length

instance (ceiling : Nat) (calls : List Call) : Decidable (Lost ceiling calls) :=
  inferInstanceAs (Decidable (_ ∨ _))

/-- What the calls leave of a new batch. -/
def left (ceiling : Nat) (snapshot : Holds) (calls : List Call) : Batch :=
  if Lost ceiling calls then ⟨ceiling, #[], snapshot, true⟩
  else ⟨ceiling, (pushed calls).toArray, snapshot, false⟩

variable {ceiling : Nat} {snapshot : Holds} {calls us vs : List Call} {e : EventRecord}

@[simp] lemma pushed_nil : pushed [] = [] := rfl

@[simp] lemma pushed_append : pushed (us ++ vs) = pushed us ++ pushed vs :=
  List.filterMap_append ..

@[simp] lemma pushed_push : pushed [.push e] = [e] := rfl

/-! ### How a batch is lost -/

lemma not_lost_nil : ¬Lost ceiling [] := by simp [Lost]

/-- A batch that is lost is lost for good. -/
lemma Lost.append (h : Lost ceiling us) (vs : List Call) : Lost ceiling (us ++ vs) := by
  rcases h with h | h
  · exact .inl (List.mem_append_left _ h)
  · refine .inr ?_
    rw [pushed_append, List.length_append]
    omega

lemma lost_discard : Lost ceiling (calls ++ [.discard]) := .inl (by simp)

/-- The push that loses a batch is the one that finds it full. -/
lemma lost_push (h : ¬Lost ceiling calls) (e : EventRecord) :
    Lost ceiling (calls ++ [.push e]) ↔ ceiling ≤ (pushed calls).length := by
  have hdiscard : Call.discard ∉ calls ++ [.push e] := by simpa using fun hmem => h (.inl hmem)
  have hlength : (pushed (calls ++ [.push e])).length = (pushed calls).length + 1 := by simp
  rw [Lost, or_iff_right hdiscard, hlength, Nat.lt_succ_iff]

/-! ### One call -/

lemma left_of_lost (h : Lost ceiling calls) :
    left ceiling snapshot calls = ⟨ceiling, #[], snapshot, true⟩ := if_pos h

lemma left_of_not_lost (h : ¬Lost ceiling calls) :
    left ceiling snapshot calls = ⟨ceiling, (pushed calls).toArray, snapshot, false⟩ := if_neg h

lemma push_left (e : EventRecord) :
    (left ceiling snapshot calls).push e = left ceiling snapshot (calls ++ [.push e]) := by
  by_cases h : Lost ceiling calls
  · rw [left_of_lost h, left_of_lost (h.append _)]
    rfl
  rw [left_of_not_lost h]
  by_cases hfull : ceiling ≤ (pushed calls).length
  · rw [left_of_lost ((lost_push h e).mpr hfull)]
    simp [push, size, discard, hfull]
  · rw [left_of_not_lost (mt (lost_push h e).mp hfull)]
    simp [push, size, hfull]

lemma discard_left :
    (left ceiling snapshot calls).discard = left ceiling snapshot (calls ++ [.discard]) := by
  rw [left_of_lost lost_discard]
  unfold left
  split_ifs <;> rfl

/-! ### All calls -/

lemma run_new : (new ceiling snapshot).run calls = left ceiling snapshot calls := by
  induction calls using List.reverseRecOn with
  | nil => exact (left_of_not_lost not_lost_nil).symm
  | append_singleton calls c ih =>
    have hlast : (new ceiling snapshot).run (calls ++ [c]) =
        ((new ceiling snapshot).run calls).step c := List.foldl_append ..
    rw [hlast, ih]
    cases c with
    | push e => exact push_left e
    | discard => exact discard_left

lemma size_left_le : (left ceiling snapshot calls).size ≤ ceiling := by
  by_cases h : Lost ceiling calls
  · rw [left_of_lost h]
    exact Nat.zero_le _
  · have hfits : ¬ceiling < (pushed calls).length := fun hlt => h (.inr hlt)
    rw [left_of_not_lost h]
    simpa [size] using hfits

/-- **A batch is whole or nothing.** As long as it is not discarded and no more is pushed than it
may hold, a new batch has just what was pushed, in that order. From the call on that discards it, or
pushes one too many, it is discarded and empty, whatever follows. It never has more events than its
mode allows. -/
theorem whole_or_nothing (mode : SendMode) (snapshot : Holds) (calls : List Call) :
    let b := (new mode.ceiling snapshot).run calls
    (.discard ∉ calls → (pushed calls).length ≤ mode.ceiling →
      b.events.toList = pushed calls ∧ b.discarded = false) ∧
    (∀ us vs, calls = us ++ vs → .discard ∈ us ∨ mode.ceiling < (pushed us).length →
      b.events = #[] ∧ b.discarded = true) ∧
    b.size ≤ mode.ceiling ∧ b.ceiling = mode.ceiling ∧
    mode.ceiling = if mode = .play then 32768 else 65536 := by
  intro b
  have hb : b = left mode.ceiling snapshot calls := run_new
  refine ⟨fun hdiscard hfits => ?_, ?_, hb ▸ size_left_le, ?_, ?_⟩
  · have hlost : ¬Lost mode.ceiling calls := by
      rintro (h | h)
      · exact hdiscard h
      · omega
    rw [hb, left_of_not_lost hlost]
    exact ⟨rfl, rfl⟩
  · rintro us vs rfl hlost
    have hall : Lost mode.ceiling (us ++ vs) := Lost.append hlost vs
    rw [hb, left_of_lost hall]
    exact ⟨rfl, rfl⟩
  · rw [hb]
    unfold left
    split_ifs <;> rfl
  · cases mode <;> rfl

end KeySynth.Batch
