import KeySynth.Proofs.Trigger.Queue

/-!
Variants that are asked for while they may not run once more.

Such a variant runs again when one of its threads has ended, once for all that asked meanwhile. What
it owes can be told from the answers of the registry alone.
-/

namespace KeySynth.Registry

variable {r r' : Registry} {id j : TriggerId} {i k : Nat} {f : Variant → Variant}
  {answers : Answers} {info : Tag} {hint : Option Nat} {ledger ledger' : Ledger} {now : Nat}
  {a : Admission}

/-! ### Variants that wait -/

/-- Variant `i` waits to run again. -/
def Waits (r : Registry) (id : TriggerId) (i : Nat) : Prop :=
  ∃ v ∈ r.variant? id i, v.runAgain = true

lemma waits_modifyVariant : (r.modifyVariant id i f).Waits j k ↔
    ∃ v ∈ r.variant? j k, (if j = id ∧ k = i then f v else v).runAgain = true := by
  simp [Waits, variant?_modifyVariant]

lemma waits_modifyVariant_of_eq (hf : ∀ v, (f v).runAgain = v.runAgain) :
    (r.modifyVariant id i f).Waits j k ↔ r.Waits j k := by
  rw [waits_modifyVariant, Waits]
  refine exists_congr fun v => and_congr_right fun _ => ?_
  split_ifs
  · rw [hf]
  · rfl

/-- A variant waits once its answer is that it will run again. -/
lemma waits_fireUnder (h : r.fireUnder answers id info hint ledger now = .ok (a, r', ledger')) :
    r'.Waits j k ↔ r.Waits j k ∨
      j = id ∧ a = .runAgainAfterFinished ∧ r.chosen? answers id info hint = some k := by
  rcases eq_of_fireUnder h with ⟨hnone, he⟩ | ⟨i, v, hi, hv, -, he⟩
  · cases he
    simp
  · unfold respond at he
    split at he <;> cases he
    · simp only [reduceCtorEq, false_and, and_false, or_false]
      exact waits_modifyVariant_of_eq fun _ => rfl
    · rw [waits_modifyVariant, hi]
      by_cases hjk : j = id ∧ k = i
      · obtain ⟨rfl, rfl⟩ := hjk
        simp [hv]
      · have hno : j = id → i ≠ k := fun hj hi => hjk ⟨hj, hi.symm⟩
        simpa [Waits, hjk] using fun hj hi => absurd hi (hno hj)
    · simp only [reduceCtorEq, false_and, and_false, or_false]
      rfl

lemma waits_offer {answers : Nat → Answers} {ps : List Pending} :
    (offer now answers ps r ledger).2.1.Waits j i ↔ r.Waits j i ∨ ∃ k p, ps[k]? = some p ∧
      j = p.id ∧ (outcomes now answers ps r ledger)[k]? = some (some .runAgainAfterFinished) ∧
      r.chosen? (answers k) p.id p.info (some p.variant) = some i := by
  induction ps generalizing answers r ledger with
  | nil => simp [offer]
  | cons p ps ih =>
    rw [← Nat.or_exists_add_one]
    cases h : r.fireUnder (answers 0) p.id p.info (some p.variant) ledger now with
    | error e => simp [offer, outcomes, h, ih]
    | ok x =>
      obtain ⟨a, r', ledger'⟩ := x
      simp [offer, outcomes, h, ih, waits_fireUnder h, (fired h).chosen?, or_assoc]

lemma waits_ended {a : Option Admission} (h : Ended r id i a r') :
    r'.Waits j k ↔ r.Waits j k ∧ ¬(j = id ∧ k = i) := by
  cases h with
  | absent hv =>
    refine (and_iff_left_of_imp ?_).symm
    rintro ⟨v, hjk, -⟩ ⟨rfl, rfl⟩
    cases hv.symm.trans hjk
  | @freed v hv hagain =>
    refine Iff.trans (waits_modifyVariant_of_eq fun _ => rfl) (and_iff_left_of_imp ?_).symm
    rintro ⟨w, hjk, hw⟩ ⟨rfl, rfl⟩
    obtain rfl : v = w := Option.some_inj.mp (hv.symm.trans hjk)
    exact absurd hw (by simp [hagain])
  | again hv hagain =>
    refine Iff.trans waits_modifyVariant ?_
    by_cases hjk : j = id ∧ k = i
    · simp [hjk]
    · simp [Waits, hjk]

lemma not_waits_of_get?_none (h : r.get? id = none) : ¬r.Waits id i := by
  simp [Waits, variant?, h]

/-- No variant waits when its trigger is registered. -/
lemma not_waits_add {t : Trigger} (hnew : r.get? r.nextId = none)
    (hfresh : ∀ v ∈ t.variants, v.Fresh) : ¬(r.add t).2.Waits r.nextId i := by
  rintro ⟨v, hv, hagain⟩
  obtain ⟨u, hu, hi⟩ := variant?_eq_some.mp hv
  rw [get?_add, hnew, Option.none_or, if_pos rfl] at hu
  obtain rfl := Option.some_inj.mp hu
  obtain ⟨w, hw, rfl⟩ := List.mem_map.mp (List.mem_of_getElem? hi)
  exact absurd hagain (by simp [(hfresh w hw).2])

/-- A thread of a registered trigger that ends starts the next one if its variant waits. -/
lemma finish_eq_ok (h : (r.get? id).isSome) (i : Nat) (ledger : Ledger) (now : Nat) :
    ∃ a r' ledger', r.finish id i ledger now = .ok (a, r', ledger') ∧
      (r.Waits id i → a = some (.launched id i) ∧ ledger' = ledger.launched now) ∧
      (¬r.Waits id i → a = none ∧ ledger' = ledger) := by
  obtain ⟨t, ht⟩ := Option.isSome_iff_exists.mp h
  simp only [finish, ht]
  cases hv : t.variants[i]? with
  | none => exact ⟨_, _, _, rfl, by simp [Waits, variant?, ht, hv], by simp⟩
  | some v =>
    have hwaits : r.Waits id i ↔ v.runAgain = true := by simp [Waits, variant?, ht, hv]
    rw [hwaits]
    by_cases hagain : v.runAgain = true
    · exact ⟨_, _, _, if_pos hagain, fun _ => ⟨rfl, rfl⟩, fun hno => absurd hagain hno⟩
    · exact ⟨_, _, _, if_neg hagain, fun hyes => absurd hyes hagain, fun _ => ⟨rfl, rfl⟩⟩

namespace Roster

variable {s : Roster} {c : Call} {calls : List Call}

/-- While `s` serves the call, the answer to input that goes to variant `i` of a trigger is that the
variant will run again. -/
def Promises (s : Roster) (c : Call) (id : TriggerId) (i : Nat) : Prop :=
  match c with
  | .fire answers j info hint ledger now =>
    id = j ∧ (s.registry.fireUnder answers j info hint ledger now).toOption.map (·.1) =
      some .runAgainAfterFinished ∧ s.registry.chosen? answers j info hint = some i
  | .drain answers ledger now =>
    ∃ k p, s.registry.pending[k]? = some p ∧ id = p.id ∧
      (s.registry.drained answers ledger now)[k]? = some (some .runAgainAfterFinished) ∧
      s.registry.chosen? (answers k) p.id p.info (some p.variant) = some i
  | .add _ | .remove _ | .finish .. => False

/-- The call settles what variant `i` of a trigger is owed: a thread of it is reported finished, or
it is another trigger from now on that goes by the id. -/
def Settles (s : Roster) (c : Call) (id : TriggerId) (i : Nat) : Prop :=
  match c with
  | .finish j k _ _ => id = j ∧ i = k
  | c => s.Registers id c

/-- One of the calls was answered that variant `i` will run again. Since then no thread of it was
reported finished, and its trigger was not added since either. -/
def Owed (s : Roster) (calls : List Call) (id : TriggerId) (i : Nat) : Prop :=
  ∃ us c vs, calls = us ++ c :: vs ∧ (s.run us).Promises c id i ∧
    ((s.run us).step c).Along (fun s d => ¬s.Settles d id i) vs

lemma Registers.settles (h : s.Registers id c) : s.Settles c id i := by
  cases c with
  | add t => exact h
  | remove | fire | drain | finish => exact h.elim

lemma owed_snoc : s.Owed (calls ++ [c]) id i ↔
    (s.run calls).Promises c id i ∨ s.Owed calls id i ∧ ¬(s.run calls).Settles c id i := by
  -- the calls after the first `us` and `d` lead to where `c` is called
  have hrun (us : List Call) (d : Call) (vs : List Call) :
      ((s.run us).step d).run vs = s.run (us ++ d :: vs) := by
    rw [run_append]
    rfl
  constructor
  · rintro ⟨us, d, vs, hcalls, hd, hvs⟩
    obtain rfl | ⟨vs, e, rfl⟩ := vs.eq_nil_or_concat
    · obtain ⟨rfl, rfl⟩ := List.append_singleton_inj.mp hcalls
      exact .inl hd
    · have hcalls : calls ++ [c] = us ++ d :: vs ++ [e] := by simpa using hcalls
      obtain ⟨rfl, rfl⟩ := List.append_singleton_inj.mp hcalls
      obtain ⟨hvs, hc⟩ := along_append.mp (List.concat_eq_append ▸ hvs)
      exact .inr ⟨⟨us, d, vs, rfl, hd, hvs⟩, hrun us d vs ▸ along_singleton.mp hc⟩
  · rintro (hc | ⟨⟨us, d, vs, rfl, hd, hvs⟩, hc⟩)
    · exact ⟨calls, c, [], rfl, hc, trivial⟩
    · refine ⟨us, d, vs ++ [c], by simp, hd, along_append.mpr ⟨hvs, along_singleton.mpr ?_⟩⟩
      exact (hrun us d vs).symm ▸ hc

/-! ### One call -/

/-- A variant waits after a call if it was promised a run by it, or waited before and the call did
not settle that. -/
lemma waits_step (hfresh : ∀ t, c = .add t → ∀ v ∈ t.variants, v.Fresh)
    (hid : ((s.step c).registry.get? id).isSome) :
    (s.step c).registry.Waits id i ↔
      s.Promises c id i ∨ s.registry.Waits id i ∧ ¬s.Settles c id i := by
  -- a call that promises nothing and is not about a thread leaves the trigger alone
  have hquiet (hget : (s.step c).registry.get? id = s.registry.get? id)
      (hpromise : ¬s.Promises c id i) (hsettle : ¬s.Settles c id i) :
      (s.step c).registry.Waits id i ↔
        s.Promises c id i ∨ s.registry.Waits id i ∧ ¬s.Settles c id i := by
    simp [Waits, variant?, hget, hpromise, hsettle]
  cases c with
  | add t =>
    by_cases hreg : s.Registers id (.add t)
    · obtain ⟨rfl, hnew⟩ := hreg
      refine iff_of_false (not_waits_add hnew (hfresh t rfl)) ?_
      rintro (h | ⟨h, -⟩)
      · exact h
      · exact not_waits_of_get?_none hnew h
    · exact hquiet (get?_step_add hreg) (fun h => h) hreg
  | remove j =>
    refine hquiet ?_ (fun h => h) (fun h => h)
    simp only [Roster.step] at hid ⊢
    split at hid
    · rfl
    · rename_i hr
      rw [get?_remove hr] at hid ⊢
      split_ifs at hid ⊢
      · cases hid
      · rfl
  | fire answers j info hint ledger now =>
    cases hr : s.registry.fireUnder answers j info hint ledger now with
    | error e =>
      refine hquiet (by simp only [Roster.step, hr]) (fun h => ?_) (fun h => h)
      simp [Promises, hr, Except.toOption] at h
    | ok x =>
      obtain ⟨a, r, ledger'⟩ := x
      have hstep : (s.step (.fire answers j info hint ledger now)).registry = r := by
        simp only [Roster.step, hr]
      rw [hstep, waits_fireUnder hr]
      simp [Promises, Settles, Registers, hr, Except.toOption, or_comm]
  | drain answers ledger now =>
    have hsettle : ¬s.Settles (.drain answers ledger now) id i := fun h => h
    rw [and_iff_left hsettle, or_comm]
    exact waits_offer
  | finish j k ledger now =>
    cases hr : s.registry.finish j k ledger now with
    | error e =>
      have hstep : (s.step (.finish j k ledger now)).registry = s.registry := by
        simp only [Roster.step, hr]
      refine hquiet (congrArg (·.get? id) hstep) (fun h => h) ?_
      -- the trigger is gone
      rintro ⟨rfl, -⟩
      rw [hstep, finish_eq_error hr] at hid
      cases hid
    | ok x =>
      obtain ⟨a, r, ledger'⟩ := x
      have hstep : (s.step (.finish j k ledger now)).registry = r := by simp only [Roster.step, hr]
      rw [hstep, waits_ended (ended hr)]
      exact (or_iff_right (fun h => h)).symm

/-! ### A run -/

/-- The variants that wait are those that are owed a run. -/
lemma waits_run (maxThreads perTrigger : Nat)
    (hfresh : ∀ t, .add t ∈ calls → ∀ v ∈ t.variants, v.Fresh)
    (hid : (((new maxThreads perTrigger).run calls).registry.get? id).isSome) :
    ((new maxThreads perTrigger).run calls).registry.Waits id i ↔
      (new maxThreads perTrigger).Owed calls id i := by
  induction calls using List.reverseRecOn with
  | nil => cases hid
  | append_singleton calls c ih =>
    rw [run_snoc] at hid ⊢
    rw [waits_step (fun t hc => hfresh t (by simp [hc])) hid, owed_snoc]
    refine or_congr_right (and_congr_left fun hsettle => ?_)
    have hold := (isSome_or_registers hid).resolve_right fun hreg => hsettle hreg.settles
    exact ih (fun t ht => hfresh t (List.mem_append_left _ ht)) hold

/-- **A saturated variant runs again once for all that asked meanwhile.** When a thread of a
registered trigger has ended, the next one starts if its variant was promised a run since the last
time that a thread of it was reported finished and since the trigger was added, and the start of it
is noted; otherwise nothing starts and nothing is noted. -/
theorem finish_relaunches (maxThreads perTrigger : Nat)
    (hfresh : ∀ t, .add t ∈ calls → ∀ v ∈ t.variants, v.Fresh)
    (hid : (((new maxThreads perTrigger).run calls).registry.get? id).isSome) (i : Nat)
    (ledger : Ledger) (now : Nat) :
    ∃ a r ledger',
      ((new maxThreads perTrigger).run calls).registry.finish id i ledger now =
        .ok (a, r, ledger') ∧
      ((new maxThreads perTrigger).Owed calls id i →
        a = some (.launched id i) ∧ ledger' = { ledger with hotkeyStart := some now }) ∧
      (¬(new maxThreads perTrigger).Owed calls id i → a = none ∧ ledger' = ledger) := by
  rw [← waits_run maxThreads perTrigger hfresh hid]
  exact finish_eq_ok hid i ledger now

/-- A variant is queued while no thread may start, and saturated when the queue is offered again. -/
theorem finish_relaunches_of_drain :
    let trigger : Trigger := ⟨"t", .hotkey, [{}]⟩
    let fire (id : TriggerId) : Call := .fire (fun _ _ => true) id 0 none .empty 0
    let before : List Call :=
      [.add trigger, .add trigger, fire 0, fire 1, fire 0, .finish 1 0 .empty 0]
    let s := (new 2 1).run (before ++ [.drain (fun _ _ _ => true) .empty 0])
    ∃ r ledger, s.registry.finish 0 0 .empty 7 = .ok (some (.launched 0 0), r, ledger) ∧
      ledger.hotkeyStart = some 7 := by
  intro trigger fire before s
  have hfresh : ∀ t, .add t ∈ before ++ [.drain (fun _ _ _ => true) .empty 0] →
      ∀ v ∈ t.variants, v.Fresh := by
    intro t ht
    obtain rfl : t = trigger := by simpa [before, fire] using ht
    decide
  have howed : (new 2 1).Owed (before ++ [.drain (fun _ _ _ => true) .empty 0]) 0 0 :=
    ⟨before, .drain (fun _ _ _ => true) .empty 0, [], rfl,
      ⟨0, ⟨0, 0, 0⟩, by decide, rfl, by decide, by decide⟩, trivial⟩
  obtain ⟨a, r, ledger', hr, hrun, -⟩ :=
    finish_relaunches 2 1 hfresh (by decide : (s.registry.get? 0).isSome) 0 .empty 7
  obtain ⟨rfl, rfl⟩ := hrun howed
  exact ⟨r, _, hr, rfl⟩

end Roster

end KeySynth.Registry
