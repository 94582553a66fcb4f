import KeySynth.Proofs.Trigger.Admission

/-!
What the priority of a thread is worth.

The gate compares a variant with the latest thread alone. That is as good as a comparison with all
of them as long as the stack of priorities is sorted, and it stays sorted but for one thing: a
thread that starts at once when another has ended goes on top whatever its priority.
-/

namespace KeySynth.Registry

variable {r r' : Registry} {id j : TriggerId} {i k : Nat} {f : Variant → Variant}

/-- The priority that a thread runs at. -/
def priority? (r : Registry) (th : TriggerId × Nat) : Option Int :=
  (r.variant? th.1 th.2).map (·.priority)

lemma priority?_modifyVariant (hf : ∀ v, (f v).priority = v.priority) :
    (r.modifyVariant id i f).priority? = r.priority? := by
  funext th
  unfold priority?
  rw [variant?_modifyVariant, Option.map_map]
  congr 1
  funext v
  by_cases h : th.1 = id ∧ th.2 = i <;> simp [h, hf]

lemma sorted_snoc {p : Int} {ps : List Int} (h : ps.Pairwise (· ≤ ·)) (hp : ∀ q ∈ ps, q ≤ p) :
    (ps ++ [p]).Pairwise (· ≤ ·) :=
  List.pairwise_append.mpr ⟨h, List.pairwise_singleton _ p, fun q hq _ hr =>
    List.mem_singleton.mp hr ▸ hp q hq⟩

/-- In a sorted stack the last priority is the highest. -/
lemma le_getLast {ps : List Int} (h : ps.Pairwise (· ≤ ·)) {q : Int} (hq : q ∈ ps) :
    ∃ last, ps.getLast? = some last ∧ q ≤ last :=
  ⟨_, List.getLast?_eq_some_getLast (List.ne_nil_of_mem hq), h.rel_getLast hq⟩

/-- To compare with the last of a sorted stack is to compare with all of it. -/
lemma any_getLast {ps : List Int} (h : ps.Pairwise (· ≤ ·)) (p : Int) :
    ps.getLast?.any (p < ·) = ps.any (p < ·) := by
  rw [Bool.eq_iff_iff, List.any_eq_true]
  constructor
  · intro hlast
    cases hl : ps.getLast? with
    | none => simp [hl] at hlast
    | some last => exact ⟨last, List.mem_of_getLast? hl, by simpa [hl] using hlast⟩
  · rintro ⟨q, hq, hpq⟩
    obtain ⟨last, hl, hle⟩ := le_getLast h hq
    rw [decide_eq_true_iff] at hpq
    simpa [hl] using Int.lt_of_lt_of_le hpq hle

/-- An answer of a drain is what became of one of the entries, in the registry that the ones before
have left. -/
lemma exists_of_mem_offer {now : Nat} {a : Admission} {ps : List Pending} {answers : Nat → Answers}
    {ledger : Ledger} (h : a ∈ (offer now answers ps r ledger).1) :
    ∃ us p vs as r₁ ledger₁ r₂ ledger₂, ps = us ++ p :: vs ∧
      offer now answers us r ledger = (as, r₁, ledger₁) ∧
      r₁.fireUnder (answers us.length) p.id p.info (some p.variant) ledger₁ now =
        .ok (a, r₂, ledger₂) := by
  induction ps generalizing answers r ledger with
  | nil => simp [offer] at h
  | cons p ps ih =>
    unfold offer at h
    split at h
    · rename_i e he
      obtain ⟨us, q, vs, as, r₁, ledger₁, r₂, ledger₂, rfl, hoff, hr⟩ := ih h
      exact ⟨p :: us, q, vs, as, r₁, ledger₁, r₂, ledger₂, rfl, by simp [offer, he, hoff], hr⟩
    · rename_i b r' ledger' hb
      rcases List.mem_cons.mp h with rfl | h
      · exact ⟨[], p, ps, [], r, ledger, r', ledger', rfl, rfl, hb⟩
      · obtain ⟨us, q, vs, as, r₁, ledger₁, r₂, ledger₂, rfl, hoff, hr⟩ := ih h
        exact ⟨p :: us, q, vs, b :: as, r₁, ledger₁, r₂, ledger₂, rfl, by simp [offer, hb, hoff],
          hr⟩

namespace Roster

variable {s m : Roster} {c : Call} {threads : List (TriggerId × Nat)}

/-- A thread that starts when another has ended is not outranked by one that runs. -/
def Yields (s : Roster) : Call → Prop
  | .finish id i _ _ => ∀ v ∈ s.registry.variant? id i, v.runAgain = true →
      ∀ q ∈ s.registry.running, q ≤ v.priority
  | _ => True

instance (s : Roster) : DecidablePred s.Yields
  | .finish id i _ _ => inferInstanceAs (Decidable (∀ v ∈ s.registry.variant? id i,
      v.runAgain = true → ∀ q ∈ s.registry.running, q ≤ v.priority))
  | .add _ | .remove _ | .fire .. | .drain .. => isTrue trivial

/-- While `s` serves the call, variant `i` of a trigger is launched, and `m` is the roster just
before: for a drain, the one that the entries further ahead in the queue have left. -/
inductive Launches (s : Roster) : Call → Roster → TriggerId → Nat → Prop where
  | fire {answers id info hint ledger now j i r ledger'} :
      s.registry.fireUnder answers id info hint ledger now = .ok (.launched j i, r, ledger') →
      Launches s (.fire answers id info hint ledger now) s j i
  | drain {answers ledger now us p vs as r₁ ledger₁ j i r ledger'} :
      s.registry.pending = us ++ p :: vs →
      offer now answers us { s.registry with pending := [] } ledger = (as, r₁, ledger₁) →
      r₁.fireUnder (answers us.length) p.id p.info (some p.variant) ledger₁ now =
        .ok (.launched j i, r, ledger') →
      Launches s (.drain answers ledger now) ⟨r₁, s.threads ++ as.filterMap thread?⟩ j i

/-- The gate lets a variant pass that is launched. -/
lemma Launches.exists_gate (h : s.Launches c m j i) :
    ∃ v, m.registry.variant? j i = some v ∧ m.registry.gate v = .launch := by
  cases h with
  | fire hr | drain _ _ hr =>
    cases Registry.fired hr with
    | launched hv _ hgate => exact ⟨_, hv, hgate⟩

/-- What each decision keeps holds when a variant is launched. -/
lemma Launches.invariant {I : Roster → Prop} (h : s.Launches c m j i)
    (hfire : ∀ {s : Roster} {id info a r}, I s → Fired s.registry id info a r →
      I ⟨r, s.threads ++ (thread? a).toList⟩)
    (hs : I s) (hempty : I ⟨{ s.registry with pending := [] }, s.threads⟩) : I m := by
  cases h with
  | fire => exact hs
  | @drain answers ledger now us _ _ _ _ _ _ _ _ _ _ hoff =>
    have hus := offer_induction now hfire us answers ledger hempty
    rw [hoff] at hus
    exact hus

/-! ### The order of the stack -/

/-- The stack has its priorities in order. -/
def Sorted (s : Roster) : Prop := s.registry.running.Pairwise (· ≤ ·)

namespace Sorted

lemma fired {info : Tag} {a : Admission} (h : s.Sorted) (hf : Fired s.registry id info a r) :
    Sorted ⟨r, s.threads ++ (thread? a).toList⟩ := by
  cases hf with
  | ignored | queued | runAgain => exact h
  | launched _ _ hgate =>
    refine sorted_snoc h fun q hq => ?_
    obtain ⟨last, hl, hle⟩ := le_getLast h hq
    exact Int.le_trans hle (gate_top hgate last hl)

lemma ended {a : Option Admission} (h : s.Sorted)
    (hy : ∀ v ∈ s.registry.variant? id i, v.runAgain = true →
      ∀ q ∈ s.registry.running, q ≤ v.priority)
    (he : Ended s.registry id i a r) : r.running.Pairwise (· ≤ ·) := by
  cases he with
  | absent => exact h
  | @freed v => exact h.sublist (eraseLast_sublist v.priority _)
  | @again v hv hagain =>
    have hsub := eraseLast_sublist v.priority s.registry.running
    exact sorted_snoc (h.sublist hsub) fun q hq => hy v hv hagain q (hsub.subset hq)

lemma step (h : s.Sorted) (hy : s.Yields c) : (s.step c).Sorted := by
  cases c with
  | add t => exact h
  | remove id =>
    simp only [Roster.step]
    split
    · exact h
    · rename_i hr
      obtain rfl := eq_of_remove hr
      exact h
  | fire answers id info hint ledger now =>
    simp only [Roster.step]
    split
    · exact h
    · exact h.fired (Registry.fired ‹_›)
  | drain answers ledger now =>
    have hs : Sorted ⟨{ s.registry with pending := [] }, s.threads⟩ := h
    exact step_drain (I := Sorted) answers ledger now Sorted.fired hs
  | finish id i ledger now =>
    simp only [Roster.step]
    split
    · exact h
    · exact h.ended hy (Registry.ended ‹_›)

/-- The latest thread of a sorted stack has the highest priority, so what passes the gate is not
outranked. -/
lemma le_of_gate (h : s.Sorted) {v : Variant} (hgate : s.registry.gate v = .launch) {q : Int}
    (hq : q ∈ s.registry.running) : q ≤ v.priority := by
  obtain ⟨last, hlast, hle⟩ := le_getLast h hq
  exact Int.le_trans hle (gate_top hgate last hlast)

end Sorted

/-! ### The priorities on the stack -/

/-- The stack has the priorities of all threads of registered triggers. -/
def Covered (s : Roster) : Prop :=
  ∀ p, s.threads.countP (fun th => s.registry.priority? th == some p) ≤ s.registry.running.count p

namespace Covered

/-- The priority of a running thread is on the stack. -/
lemma mem_running (h : s.Covered) {th : TriggerId × Nat} (hth : th ∈ s.threads) {p : Int}
    (hp : s.registry.priority? th = some p) : p ∈ s.registry.running := by
  have hpos : 0 < s.threads.countP (fun th => s.registry.priority? th == some p) :=
    List.countP_pos_iff.mpr ⟨th, hth, by simp [hp]⟩
  exact List.count_pos_iff.mp (hpos.trans_le (h p))

/-- Threads and stack change, and no variant changes its priority. -/
lemma settle (hprio : r.priority? = s.registry.priority?)
    (h : ∀ p, threads.countP (fun th => s.registry.priority? th == some p) ≤ r.running.count p) :
    Covered ⟨r, threads⟩ := by
  intro p
  change threads.countP (fun th => r.priority? th == some p) ≤ _
  rw [hprio]
  exact h p

lemma fired {info : Tag} {a : Admission} (h : s.Covered) (hf : Fired s.registry id info a r) :
    Covered ⟨r, s.threads ++ (thread? a).toList⟩ := by
  cases hf with
  | ignored | queued =>
    simp only [thread?, Option.toList_none, List.append_nil]
    exact h
  | runAgain =>
    simp only [thread?, Option.toList_none, List.append_nil]
    exact settle (priority?_modifyVariant fun _ => rfl) h
  | @launched i v hv _ _ =>
    have hprio : s.registry.priority? (id, i) = some v.priority := by simp [priority?, hv]
    refine settle (priority?_modifyVariant fun _ => rfl) fun p => ?_
    have hold := h p
    simp only [thread?, Option.toList_some, List.countP_append, List.count_append,
      List.countP_singleton, List.count_singleton, hprio]
    by_cases heq : v.priority = p <;> simp [heq] <;> omega

lemma ended {a : Option Admission} (h : s.Covered) (hth : (id, i) ∈ s.threads)
    (he : Ended s.registry id i a r) :
    Covered ⟨r, s.threads.erase (id, i) ++ (a.bind thread?).toList⟩ := by
  -- the thread that ends takes its priority off the stack
  have hless : ∀ v, s.registry.variant? id i = some v → ∀ p,
      (s.threads.erase (id, i)).countP (fun th => s.registry.priority? th == some p) ≤
        (eraseLast v.priority s.registry.running).count p := fun v hv p => by
    have hcov := h p
    have hprio : s.registry.priority? (id, i) = some v.priority := by simp [priority?, hv]
    rw [List.countP_erase, count_eraseLast]
    by_cases heq : v.priority = p <;> simp [hth, hprio, heq] <;> omega
  cases he with
  | absent =>
    simp only [Option.bind_none, Option.toList_none, List.append_nil]
    exact fun p => (List.Sublist.countP_le List.erase_sublist).trans (h p)
  | freed hv _ =>
    simp only [Option.bind_none, Option.toList_none, List.append_nil]
    exact settle (priority?_modifyVariant fun _ => rfl) (hless _ hv)
  | @again v hv _ =>
    have hprio : s.registry.priority? (id, i) = some v.priority := by simp [priority?, hv]
    refine settle (priority?_modifyVariant fun _ => rfl) fun p => ?_
    have hrest := hless v hv p
    simp only [Option.bind_some, thread?, Option.toList_some, List.countP_append,
      List.count_append, List.countP_singleton, List.count_singleton, hprio]
    by_cases heq : v.priority = p <;> simp [heq] at hrest ⊢ <;> omega

lemma add (h : s.Covered) {t : Trigger} (hids : s.Unshared (.add t)) :
    (s.step (.add t)).Covered := by
  intro p
  refine le_of_eq_of_le (List.countP_congr fun th hth => ?_) (h p)
  simp only [priority?, variant?, get?_step_add (hids th hth)]

/-- A trigger that is gone has no priorities to speak of. -/
lemma remove (h : s.Covered) {t : Trigger} (hr : s.registry.remove id = .ok (t, r)) :
    Covered ⟨r, s.threads⟩ := by
  have hget := fun j => get?_remove (j := j) hr
  obtain rfl := eq_of_remove hr
  refine fun p => (List.countP_mono_left fun th _ hth => ?_).trans (h p)
  simp only [priority?, variant?, hget] at hth ⊢
  split_ifs at hth
  · simp at hth
  · exact hth

lemma step (h : s.Covered) (ho : s.Owns c) (hids : s.Unshared c) : (s.step c).Covered := by
  cases c with
  | add t => exact h.add hids
  | remove id =>
    simp only [Roster.step]
    split
    · exact h
    · exact h.remove ‹_›
  | fire answers id info hint ledger now =>
    simp only [Roster.step]
    split
    · exact h
    · exact h.fired (Registry.fired ‹_›)
  | drain answers ledger now =>
    have hs : Covered ⟨{ s.registry with pending := [] }, s.threads⟩ := h
    exact step_drain (I := Covered) answers ledger now Covered.fired hs
  | finish id i ledger now =>
    simp only [Roster.step]
    split
    · -- the trigger is gone, and so are its priorities
      exact fun p => (List.Sublist.countP_le List.erase_sublist).trans (h p)
    · exact h.ended ho (Registry.ended ‹_›)

end Covered

/-- Every launch that a drain answers is one of its launches. -/
theorem exists_launches {answers : Nat → Answers} {ledger : Ledger} {now : Nat}
    (h : .launched j i ∈ (s.registry.drainUnder answers ledger now).1) :
    ∃ m, s.Launches (.drain answers ledger now) m j i := by
  obtain ⟨us, p, vs, as, r₁, ledger₁, r', ledger', hp, hoff, hr⟩ := exists_of_mem_offer h
  exact ⟨_, .drain hp hoff hr⟩

/-- **Nothing is launched over a thread of higher priority**, unless a thread that started when
another had ended was itself outranked: the latest thread then has the highest priority, so that a
comparison with it is one with all threads that run. (If triggers are removed, a thread must not
come to be one of another trigger that is added under its id.) -/
theorem launch_respects_priority (maxThreads perTrigger : Nat) {calls : List Call} {c : Call}
    {m : Roster} {j : TriggerId} {i : Nat}
    (howns : (Roster.new maxThreads perTrigger).Along Owns calls)
    (hyields : (Roster.new maxThreads perTrigger).Along Yields calls)
    (hl : ((Roster.new maxThreads perTrigger).run calls).Launches c m j i) :
    (∃ v, m.registry.variant? j i = some v ∧ (∀ q ∈ m.registry.running, q ≤ v.priority) ∧
      ((∀ id, Call.remove id ∉ calls) ∨ (Roster.new maxThreads perTrigger).Along Unshared calls →
        ∀ th ∈ m.threads, ∀ w, m.registry.variant? th.1 th.2 = some w →
          w.priority ≤ v.priority)) ∧
    ∀ p, m.registry.running.getLast?.any (p < ·) = m.registry.running.any (p < ·) := by
  have hrun : ((Roster.new maxThreads perTrigger).run calls).Sorted :=
    hyields.invariant (I := Sorted) Sorted.step List.Pairwise.nil
  have hsorted : m.Sorted := hl.invariant (I := Sorted) Sorted.fired hrun hrun
  obtain ⟨v, hv, hgate⟩ := hl.exists_gate
  refine ⟨⟨v, hv, fun _ => hsorted.le_of_gate hgate, fun hkept th hth w hw => ?_⟩,
    any_getLast hsorted⟩
  have hids : (Roster.new maxThreads perTrigger).Along Unshared calls :=
    hkept.elim (fun hkeep => along_unshared maxThreads perTrigger (.inl hkeep)) id
  have hrun : ((Roster.new maxThreads perTrigger).run calls).Covered :=
    (howns.and hids).invariant (I := Covered) (fun h hc => h.step hc.1 hc.2) fun _ => Nat.le_refl 0
  have hcovered : m.Covered := hl.invariant (I := Covered) Covered.fired hrun hrun
  exact hsorted.le_of_gate hgate (hcovered.mem_running hth (by simp [priority?, hw]))

/-- A thread that runs again is not outranked, and what waits for it is launched when it has
ended. -/
theorem launch_respects_priority_of_drain :
    let trigger (p : Int) : Trigger := ⟨"t", .hotkey, [{ priority := p }]⟩
    let fire (id : TriggerId) : Call := .fire (fun _ _ => true) id 0 none .empty 0
    let calls : List Call := [.add (trigger 0), .add (trigger 5), .add (trigger 3), fire 0, fire 1,
      fire 1, fire 2, .finish 1 0 .empty 0, .finish 1 0 .empty 0]
    let s := (Roster.new 10 1).run calls
    (Roster.new 10 1).Along Owns calls ∧ (Roster.new 10 1).Along Yields calls ∧
      s.registry.running = [0] ∧ ∃ m, s.Launches (.drain (fun _ _ _ => true) .empty 0) m 2 0 ∧
        m.registry.running.getLast?.any (3 < ·) = m.registry.running.any (3 < ·) := by
  intro trigger fire calls s
  have howns : (Roster.new 10 1).Along Owns calls := by decide
  have hyields : (Roster.new 10 1).Along Yields calls := by decide
  obtain ⟨m, hl⟩ : ∃ m, s.Launches (.drain (fun _ _ _ => true) .empty 0) m 2 0 :=
    exists_launches (by decide)
  exact ⟨howns, hyields, by decide, m, hl, (launch_respects_priority 10 1 howns hyields hl).2 3⟩

/-- A thread of priority 0 that starts again goes on top of one of priority 5, and one of priority
3 is launched. -/
theorem launch_over_higher :
    let trigger (p : Int) : Trigger := ⟨"t", .hotkey, [{ priority := p }]⟩
    let fire (id : TriggerId) : Call := .fire (fun _ _ => true) id 0 none .empty 0
    let calls : List Call := [.add (trigger 0), .add (trigger 5), .add (trigger 3), fire 0, fire 1,
      fire 0, .finish 0 0 .empty 0]
    let s := (Roster.new 10 1).run calls
    (Roster.new 10 1).Along Owns calls ∧ s.threads = [(1, 0), (0, 0)] ∧
      s.Launches (fire 2) s 2 0 ∧ s.registry.priority? (2, 0) = some 3 ∧
        s.registry.priority? (1, 0) = some 5 := by
  intro trigger fire calls s
  refine ⟨by decide, by decide, ?_, by decide, by decide⟩
  have ha : (s.registry.fireUnder (fun _ _ => true) 2 0 none .empty 0).toOption.map (·.1) =
      some (.launched 2 0) := by decide
  obtain ⟨r, ledger, hr⟩ := exists_of_answer ha
  exact .fire hr

end Roster

end KeySynth.Registry
