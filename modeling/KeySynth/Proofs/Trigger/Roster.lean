import KeySynth.Proofs.Trigger.Decision

/-!
A registry and its host.

The host may ask what it likes, in any order. It knows a thread by the id of its trigger, and ids
come round again when all have been given out: what can be told of threads holds as long as no
trigger is registered under an id that a thread of an earlier one still goes by.
-/

namespace KeySynth

/-- A variant as it is built. -/
def Variant.Fresh (v : Variant) : Prop := v.running = 0 ∧ v.runAgain = false

instance : DecidablePred Variant.Fresh := fun v =>
  inferInstanceAs (Decidable (v.running = 0 ∧ v.runAgain = false))

namespace Registry

/-- The thread that an admission started. -/
def thread? : Admission → Option (TriggerId × Nat)
  | .launched id i => some (id, i)
  | _ => none

/-- What a host may ask of a registry. -/
inductive Call where
  | add (t : Trigger)
  | remove (id : TriggerId)
  | fire (answers : Answers) (id : TriggerId) (info : Tag) (hint : Option Nat) (ledger : Ledger)
      (now : Nat)
  | drain (answers : Nat → Answers) (ledger : Ledger) (now : Nat)
  | finish (id : TriggerId) (i : Nat) (ledger : Ledger) (now : Nat)

def Call.isAdd : Call → Bool
  | .add _ => true
  | _ => false

/-- A registry and the threads that were launched and are not reported finished yet. -/
structure Roster where
  registry : Registry
  threads : List (TriggerId × Nat)

namespace Roster

def new (maxThreads perTrigger : Nat) : Roster := ⟨Registry.new maxThreads perTrigger, []⟩

variable (s : Roster)

def step : Call → Roster
  | .add t => { s with registry := (s.registry.add t).2 }
  | .remove id =>
    match s.registry.remove id with
    | .error _ => s
    | .ok (_, r) => { s with registry := r }
  | .fire answers id info hint ledger now =>
    match s.registry.fireUnder answers id info hint ledger now with
    | .error _ => s
    | .ok (a, r, _) => ⟨r, s.threads ++ (thread? a).toList⟩
  | .drain answers ledger now =>
    let (as, r, _) := s.registry.drainUnder answers ledger now
    ⟨r, s.threads ++ as.filterMap thread?⟩
  | .finish id i ledger now =>
    match s.registry.finish id i ledger now with
    | .error _ => { s with threads := s.threads.erase (id, i) }
    | .ok (a, r, _) => ⟨r, s.threads.erase (id, i) ++ (a.bind thread?).toList⟩

def run (calls : List Call) : Roster := calls.foldl step s

/-! ### What is asked of a host -/

/-- Every call of the list is such that `p` at its turn. -/
def Along (p : Roster → Call → Prop) : Roster → List Call → Prop
  | _, [] => True
  | s, c :: cs => p s c ∧ Along p (s.step c) cs

instance decidableAlong {p : Roster → Call → Prop} [∀ s, DecidablePred (p s)] :
    ∀ (s : Roster) (calls : List Call), Decidable (s.Along p calls)
  | _, [] => isTrue trivial
  | s, c :: cs =>
    have := decidableAlong (p := p) (s.step c) cs
    inferInstanceAs (Decidable (p s c ∧ Along p (s.step c) cs))

/-- Only a thread that was launched and has not ended yet is reported finished. -/
def Owns : Call → Prop
  | .finish id i _ _ => (id, i) ∈ s.threads
  | _ => True

instance : DecidablePred s.Owns
  | .finish id i _ _ => inferInstanceAs (Decidable ((id, i) ∈ s.threads))
  | .add _ | .remove _ | .fire .. | .drain .. => isTrue trivial

/-- A trigger is added as it was built, and a thread is reported finished once. -/
def Permits : Call → Prop
  | .add t => ∀ v ∈ t.variants, v.Fresh
  | c => s.Owns c

instance : DecidablePred s.Permits
  | .add t => inferInstanceAs (Decidable (∀ v ∈ t.variants, v.Fresh))
  | .finish id i _ _ => inferInstanceAs (Decidable ((id, i) ∈ s.threads))
  | .remove _ | .fire .. | .drain .. => isTrue trivial

/-- The call registers a trigger under the id. -/
def Registers (id : TriggerId) : Call → Prop
  | .add _ => id = s.registry.nextId ∧ s.registry.get? id = none
  | _ => False

instance (id : TriggerId) : DecidablePred (s.Registers id)
  | .add _ => inferInstanceAs (Decidable (id = s.registry.nextId ∧ s.registry.get? id = none))
  | .remove _ | .fire .. | .drain .. | .finish .. => isFalse fun h => h

/-- No trigger is registered under an id that a thread goes by. -/
def Unshared (c : Call) : Prop := ∀ th ∈ s.threads, ¬s.Registers th.1 c

instance : DecidablePred s.Unshared := fun c =>
  inferInstanceAs (Decidable (∀ th ∈ s.threads, ¬s.Registers th.1 c))

variable {s} {c : Call} {cs calls : List Call} {j : TriggerId} {p q : Roster → Call → Prop}

/-! ### Runs -/

lemma run_append (s : Roster) (calls cs : List Call) :
    s.run (calls ++ cs) = (s.run calls).run cs :=
  List.foldl_append

lemma run_snoc (s : Roster) (calls : List Call) (c : Call) :
    s.run (calls ++ [c]) = (s.run calls).step c :=
  List.foldl_concat step s c calls

lemma along_append : s.Along p (calls ++ cs) ↔ s.Along p calls ∧ (s.run calls).Along p cs := by
  induction calls generalizing s with
  | nil => exact (true_and _).symm.to_iff
  | cons c calls ih => exact (and_congr_right fun _ => ih).trans and_assoc.symm

lemma along_singleton : s.Along p [c] ↔ p s c := and_iff_left trivial

lemma along_of_forall (h : ∀ c ∈ calls, ∀ s, p s c) (s : Roster) : s.Along p calls := by
  induction calls generalizing s with
  | nil => trivial
  | cons c cs ih =>
    exact ⟨h c List.mem_cons_self s, ih (fun d hd => h d (List.mem_cons_of_mem c hd)) _⟩

lemma Along.and (hp : s.Along p calls) (hq : s.Along q calls) :
    s.Along (fun s c => p s c ∧ q s c) calls := by
  induction calls generalizing s with
  | nil => trivial
  | cons c cs ih => exact ⟨⟨hp.1, hq.1⟩, ih hp.2 hq.2⟩

/-- What each call keeps, a run keeps. -/
lemma Along.invariant {I : Roster → Prop} (hp : s.Along p calls)
    (hstep : ∀ {s c}, I s → p s c → I (s.step c)) (h : I s) : I (s.run calls) := by
  induction calls generalizing s with
  | nil => exact h
  | cons c cs ih => exact ih hp.2 (hstep h hp.1)

/-! ### Drains -/

/-- What each decision keeps, offers in turn keep. -/
lemma offer_induction {I : Roster → Prop} (now : Nat)
    (hfire : ∀ {s : Roster} {id info a r}, I s → Fired s.registry id info a r →
      I ⟨r, s.threads ++ (thread? a).toList⟩) :
    ∀ (ps : List Pending) (answers : Nat → Answers) {s : Roster} (ledger : Ledger), I s →
      let (as, r, _) := Registry.offer now answers ps s.registry ledger
      I ⟨r, s.threads ++ as.filterMap thread?⟩
  | [], answers, s, ledger, h => by
    simpa only [Registry.offer, List.filterMap_nil, List.append_nil] using h
  | p :: ps, answers, s, ledger, h => by
    simp only [Registry.offer]
    split
    · exact offer_induction now hfire ps _ ledger h
    · rename_i a r ledger' hr
      have ih := offer_induction now hfire ps (answers <| · + 1) ledger' (hfire h (fired hr))
      have hcons : ∀ as : List Admission, s.threads ++ (a :: as).filterMap thread? =
          s.threads ++ (thread? a).toList ++ as.filterMap thread? := fun as => by
        rw [List.append_assoc, List.filterMap_cons]
        cases thread? a <;> rfl
      exact hcons _ ▸ ih

/-- What each decision keeps, a drain keeps. -/
lemma step_drain {I : Roster → Prop} (answers : Nat → Answers) (ledger : Ledger) (now : Nat)
    (hfire : ∀ {s : Roster} {id info a r}, I s → Fired s.registry id info a r →
      I ⟨r, s.threads ++ (thread? a).toList⟩)
    (h : I ⟨{ s.registry with pending := [] }, s.threads⟩) :
    I (s.step (.drain answers ledger now)) :=
  offer_induction now hfire s.registry.pending answers ledger h

/-! ### Who is registered -/

lemma sameIds_offer (now : Nat) (answers : Nat → Answers) (ps : List Pending) (r : Registry)
    (ledger : Ledger) : r.SameIds (Registry.offer now answers ps r ledger).2.1 :=
  offer_induction (I := fun s => r.SameIds s.registry) now
    (fun hI hf => hI.trans hf.sameIds) ps answers (s := ⟨r, []⟩) ledger ⟨fun _ => rfl, rfl⟩

/-- Only a host that adds or removes a trigger changes which of them are registered. -/
lemma registry_step (s : Roster) (c : Call) :
    (∃ t, c = .add t ∧ (s.step c).registry = (s.registry.add t).2) ∨
      (∃ id t r, c = .remove id ∧ s.registry.remove id = .ok (t, r) ∧ (s.step c).registry = r) ∨
        c.isAdd = false ∧ s.registry.SameIds (s.step c).registry := by
  have hsame : s.registry.SameIds s.registry := ⟨fun _ => rfl, rfl⟩
  cases c with
  | add t => exact .inl ⟨t, rfl, rfl⟩
  | remove id =>
    simp only [Roster.step]
    split
    · exact .inr (.inr ⟨rfl, hsame⟩)
    · rename_i t r hr
      exact .inr (.inl ⟨id, t, r, rfl, hr, rfl⟩)
  | fire answers id info hint ledger now =>
    simp only [Roster.step]
    split
    · exact .inr (.inr ⟨rfl, hsame⟩)
    · exact .inr (.inr ⟨rfl, (Registry.fired ‹_›).sameIds⟩)
  | drain answers ledger now =>
    have hids := sameIds_offer now answers s.registry.pending
      { s.registry with pending := [] } ledger
    exact .inr (.inr ⟨rfl, hids.get?, hids.nextId⟩)
  | finish id i ledger now =>
    simp only [Roster.step]
    split
    · exact .inr (.inr ⟨rfl, hsame⟩)
    · exact .inr (.inr ⟨rfl, (Registry.ended ‹_›).sameIds⟩)

/-- No trigger changes when another one is added. -/
lemma get?_step_add {t : Trigger} (h : ¬s.Registers j (.add t)) :
    (s.step (.add t)).registry.get? j = s.registry.get? j := by
  refine (get?_add t).trans ?_
  cases hold : s.registry.get? j with
  | some u => rfl
  | none => exact if_neg fun hj => h ⟨hj, hold⟩

/-- A trigger stays registered until it is removed. -/
lemma isSome_get?_step (h : (s.registry.get? j).isSome) (hremove : c ≠ .remove j) :
    ((s.step c).registry.get? j).isSome := by
  rcases s.registry_step c with ⟨t, -, hr⟩ | ⟨id, t, r, rfl, hr, hs⟩ | ⟨-, hids⟩
  · rw [hr, get?_add, Option.isSome_or, h, Bool.true_or]
  · have hne : j ≠ id := fun heq => hremove (heq ▸ rfl)
    rwa [hs, get?_remove hr, if_neg hne]
  · exact (hids.get? j).symm ▸ h

/-- No trigger is registered unless it was so before or is registered by the call. -/
lemma isSome_or_registers (h : ((s.step c).registry.get? j).isSome) :
    (s.registry.get? j).isSome ∨ s.Registers j c := by
  rcases s.registry_step c with ⟨t, rfl, hr⟩ | ⟨id, t, r, -, hr, hs⟩ | ⟨-, hids⟩
  · rw [hr, get?_add] at h
    cases hold : s.registry.get? j with
    | some u => exact .inl rfl
    | none =>
      rw [hold, Option.none_or] at h
      split_ifs at h with hj
      · exact .inr ⟨hj, hold⟩
      · cases h
  · rw [hs, get?_remove hr] at h
    split_ifs at h
    · cases h
    · exact .inl h
  · exact .inl (hids.get? j ▸ h)

lemma get?_step_eq_none (h : s.registry.get? j = none) (hc : ¬s.Registers j c) :
    (s.step c).registry.get? j = none := by
  by_contra hsome
  rcases isSome_or_registers (Option.isSome_iff_ne_none.mpr hsome) with hold | hreg
  · exact Option.isSome_iff_ne_none.mp hold h
  · exact hc hreg

lemma get?_step_remove (s : Roster) (j : TriggerId) :
    (s.step (.remove j)).registry.get? j = none := by
  simp only [Roster.step]
  split
  · rename_i hr
    unfold Registry.remove at hr
    split at hr
    · assumption
    · cases hr
  · simp [get?_remove ‹_›]

/-- A thread that is new is one of a registered trigger. -/
lemma mem_threads_step {th : TriggerId × Nat} (h : th ∈ (s.step c).threads) :
    th ∈ s.threads ∨ ((s.step c).registry.get? th.1).isSome := by
  -- a decision starts no thread but of the trigger that it is about
  have hfire {u : Roster} {id : TriggerId} {info : Tag} {a : Admission} {r : Registry}
      (hu : ∀ th ∈ u.threads, th ∈ s.threads ∨ (u.registry.get? th.1).isSome)
      (hf : Fired u.registry id info a r) :
      ∀ th ∈ u.threads ++ (thread? a).toList, th ∈ s.threads ∨ (r.get? th.1).isSome := by
    intro th hth
    rw [hf.sameIds.get?]
    rcases List.mem_append.mp hth with hth | hth
    · exact hu th hth
    · obtain ⟨j, k, rfl, rfl⟩ : ∃ j k, a = .launched j k ∧ th = (j, k) := by
        cases a <;> simp_all [thread?]
      exact .inr hf.isSome_of_launched
  cases c with
  | add | remove =>
    refine .inl ?_
    simp only [Roster.step] at h
    first
    | exact h
    | split at h <;> exact h
  | fire answers id info hint ledger now =>
    simp only [Roster.step] at h ⊢
    split at h
    · exact .inl h
    · exact hfire (fun _ hth => .inl hth) (Registry.fired ‹_›) th h
  | drain answers ledger now =>
    exact step_drain
      (I := fun u => ∀ th ∈ u.threads, th ∈ s.threads ∨ (u.registry.get? th.1).isSome) answers
      ledger now hfire (fun _ hth => .inl hth) th h
  | finish id i ledger now =>
    simp only [Roster.step] at h ⊢
    split at h
    · exact .inl (List.mem_of_mem_erase h)
    · rename_i a r _ hf
      rcases List.mem_append.mp h with h | h
      · exact .inl (List.mem_of_mem_erase h)
      · have he := Registry.ended hf
        obtain rfl : th = (id, i) := by cases he <;> simp_all [thread?]
        exact .inr (he.sameIds.get? id ▸ isSome_of_finish hf)

/-! ### Ids of their own -/

/-- The trigger of every thread is registered. -/
def Attached (s : Roster) : Prop := ∀ th ∈ s.threads, (s.registry.get? th.1).isSome

/-- As long as no trigger is removed no thread is left without its own. -/
lemma Attached.step (h : s.Attached) (hkeep : ∀ id, c ≠ .remove id) : (s.step c).Attached :=
  fun th hth => (mem_threads_step hth).elim
    (fun hold => isSome_get?_step (h th hold) (hkeep th.1)) fun hnew => hnew

lemma Attached.unshared (h : s.Attached) (c : Call) : s.Unshared c := by
  intro th hth hreg
  have hsome := h th hth
  cases c with
  | add t => simp [hreg.2] at hsome
  | remove | fire | drain | finish => exact hreg

/-- As long as no trigger is removed ids are not shared. -/
lemma Attached.along_unshared (h : s.Attached) (hkeep : ∀ id, Call.remove id ∉ calls) :
    s.Along Unshared calls := by
  induction calls generalizing s with
  | nil => trivial
  | cons c cs ih =>
    refine ⟨h.unshared c, ih (h.step fun id hc => ?_) fun id hid => ?_⟩
    · exact hkeep id (hc ▸ List.mem_cons_self)
    · exact hkeep id (List.mem_cons_of_mem c hid)

/-- The first `n` ids were given out. -/
structure Issued (s : Roster) (n : Nat) : Prop where
  nextId : s.registry.nextId = UInt32.ofNat n
  registered : ∀ id, (s.registry.get? id).isSome → id.toNat < n
  threads : ∀ th ∈ s.threads, th.1.toNat < n

lemma Issued.new (maxThreads perTrigger : Nat) : (new maxThreads perTrigger).Issued 0 where
  nextId := rfl
  registered := nofun
  threads := nofun

variable {n : Nat}

lemma Issued.toNat_nextId (h : s.Issued n) (hn : n < 2 ^ 32) : s.registry.nextId.toNat = n := by
  rw [h.nextId]
  exact Nat.mod_eq_of_lt hn

/-- An id that is next was not given out before. -/
lemma Issued.unshared (h : s.Issued n) (hn : c.isAdd = true → n < 2 ^ 32) : s.Unshared c := by
  intro th hth hreg
  cases c with
  | add t =>
    have hlt := h.threads th hth
    rw [hreg.1, h.toNat_nextId (hn rfl)] at hlt
    exact Nat.lt_irrefl n hlt
  | remove | fire | drain | finish => exact hreg

lemma Issued.step (h : s.Issued n) (hn : c.isAdd = true → n < 2 ^ 32) :
    (s.step c).Issued (n + c.isAdd.toNat) := by
  have hreg : ∀ id, ((s.step c).registry.get? id).isSome → id.toNat < n + c.isAdd.toNat := by
    intro id hid
    rcases isSome_or_registers hid with hold | hreg
    · exact Nat.lt_add_right _ (h.registered id hold)
    · cases c with
      | add t =>
        rw [hreg.1, h.toNat_nextId (hn rfl)]
        exact Nat.lt_succ_self n
      | remove | fire | drain | finish => exact hreg.elim
  refine ⟨?_, hreg, fun th hth => ?_⟩
  · rcases s.registry_step c with ⟨t, rfl, hr⟩ | ⟨id, t, r, rfl, hr, hs⟩ | ⟨hc, hids⟩
    · rw [hr]
      change s.registry.nextId + 1 = UInt32.ofNat (n + 1)
      rw [h.nextId, UInt32.ofNat_add]
      rfl
    · obtain rfl := eq_of_remove hr
      rw [hs]
      exact h.nextId
    · rw [hids.nextId, h.nextId, hc]
      rfl
  · exact (mem_threads_step hth).elim (fun hold => Nat.lt_add_right _ (h.threads th hold))
      (hreg th.1)

/-- As long as there is an id for every trigger ids are not shared. -/
lemma Issued.along_unshared (h : s.Issued n) (hn : n + calls.countP Call.isAdd ≤ 2 ^ 32) :
    s.Along Unshared calls := by
  induction calls generalizing s n with
  | nil => trivial
  | cons c cs ih =>
    rw [List.countP_cons] at hn
    have hlt : c.isAdd = true → n < 2 ^ 32 := fun hc => by
      rw [if_pos hc] at hn
      omega
    refine ⟨h.unshared hlt, ih (h.step hlt) ?_⟩
    cases hc : c.isAdd <;> simp [hc] at hn ⊢ <;> omega

/-- Ids are not shared as long as no trigger is removed, or as long as there is an id for each. -/
lemma along_unshared (maxThreads perTrigger : Nat)
    (h : (∀ id, Call.remove id ∉ calls) ∨ calls.countP Call.isAdd ≤ 2 ^ 32) :
    (new maxThreads perTrigger).Along Unshared calls := by
  have hattached : (new maxThreads perTrigger).Attached := nofun
  rcases h with hkeep | hfew
  · exact hattached.along_unshared hkeep
  · exact (Issued.new maxThreads perTrigger).along_unshared (by omega)

end Roster

end Registry

end KeySynth
