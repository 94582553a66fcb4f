import KeySynth.Proofs.Trigger.Admission

/-!
How many threads the registry takes to be running.

The stack of priorities has a slot for each thread that the host has launched and not reported
finished. A thread that ends when its trigger is gone leaves its slot behind, so the stack also has
one for each of those.
-/

namespace KeySynth.Registry.Roster

/-- The slots that a call leaves behind: that of a thread that ends when its trigger is gone. -/
def strands (s : Roster) : Call → Nat
  | .finish id _ _ _ => if (s.registry.get? id).isNone then 1 else 0
  | _ => 0

/-- The slots that calls leave behind. -/
def stranded : Roster → List Call → Nat
  | _, [] => 0
  | s, c :: cs => s.strands c + (s.step c).stranded cs

/-- As many slots are taken beyond those of the threads that run. -/
def Spare (n : Nat) (s : Roster) : Prop := s.registry.running.length = s.threads.length + n

variable {s : Roster} {n limit : Nat} {id : TriggerId} {i : Nat} {r : Registry} {c : Call}

lemma Spare.fired {info : Tag} {a : Admission} (h : s.Spare n)
    (hf : Fired s.registry id info a r) : Spare n ⟨r, s.threads ++ (thread? a).toList⟩ := by
  unfold Spare at h ⊢
  cases hf with
  | ignored | runAgain | queued => simpa [thread?] using h
  | launched => simp [thread?, h]; omega

/-- A launched thread that ends frees one slot, and takes one again if its variant runs again. -/
lemma Spare.ended {a : Option Admission} (h : s.Spare n) (hs : s.Sound limit)
    (hth : (id, i) ∈ s.threads) (hg : (s.registry.get? id).isSome)
    (he : Ended s.registry id i a r) :
    Spare n ⟨r, s.threads.erase (id, i) ++ (a.bind thread?).toList⟩ := by
  obtain ⟨t, ht⟩ := Option.isSome_iff_exists.mp hg
  obtain ⟨v, hv, -, hmem⟩ := hs.exists_variant ht hth
  have hvar : s.registry.variant? id i = some v := variant?_eq_some.mpr ⟨t, ht, hv⟩
  have hslot : 0 < s.registry.running.length := List.length_pos_of_mem hmem
  have hthread : 0 < s.threads.length := List.length_pos_of_mem hth
  unfold Spare at h ⊢
  cases he with
  | absent hnone => simp [hvar] at hnone
  | freed hw =>
    obtain rfl := Option.some_inj.mp (hvar.symm.trans hw)
    simp [List.length_erase_of_mem hth, length_eraseLast hmem]
    omega
  | again hw =>
    obtain rfl := Option.some_inj.mp (hvar.symm.trans hw)
    simp [thread?, List.length_erase_of_mem hth, length_eraseLast hmem]
    omega

lemma Spare.step (h : s.Spare n) (hs : s.Sound limit) (hc : s.Permits c) :
    (s.step c).Spare (n + s.strands c) := by
  cases c with
  | add t => exact h
  | remove id =>
    simp only [Roster.step]
    split
    · exact h
    · rename_i hr
      obtain rfl := eq_of_remove hr
      exact h
  | fire answers id info hint ledger now =>
    simp only [Roster.step]
    split
    · exact h
    · exact h.fired (Registry.fired ‹_›)
  | drain answers ledger now =>
    have hs : Spare n ⟨{ s.registry with pending := [] }, s.threads⟩ := h
    exact step_drain (I := Spare n) answers ledger now Spare.fired hs
  | finish id i ledger now =>
    have hth : (id, i) ∈ s.threads := hc
    cases hf : s.registry.finish id i ledger now with
    | error e =>
      have hgone : s.registry.get? id = none := finish_eq_error hf
      have hpos : 0 < s.threads.length := List.length_pos_of_mem hth
      unfold Spare at h ⊢
      simp [Roster.step, strands, hf, hgone, List.length_erase_of_mem hth]
      omega
    | ok x =>
      have hg : (s.registry.get? id).isSome := isSome_of_finish hf
      simp only [Roster.step, strands, hf, Option.isNone_eq_false_iff.mpr hg]
      exact h.ended hs hth hg (Registry.ended hf)

lemma Spare.run {calls : List Call} (h : s.Spare n) (hs : s.Sound limit)
    (hp : s.Along Permits calls) (hids : s.Along Unshared calls) :
    (s.run calls).Spare (n + s.stranded calls) := by
  induction calls generalizing s n with
  | nil => exact h
  | cons c cs ih =>
    have hrest := ih (h.step hs hp.1) (hs.step hp.1 hids.1) hp.2 hids.2
    rwa [Nat.add_assoc] at hrest

/-- No slot is left behind as long as the trigger of every thread is registered. -/
lemma Attached.strands (h : s.Attached) (hc : s.Permits c) : s.strands c = 0 := by
  cases c with
  | add | remove | fire | drain => rfl
  | finish id i ledger now =>
    have hg : (s.registry.get? id).isSome := h (id, i) hc
    exact if_neg (by simp [Option.isSome_iff_ne_none.mp hg])

lemma Attached.stranded {calls : List Call} (h : s.Attached) (hp : s.Along Permits calls)
    (hkeep : ∀ id, Call.remove id ∉ calls) : s.stranded calls = 0 := by
  induction calls generalizing s with
  | nil => rfl
  | cons c cs ih =>
    have hstep := h.step fun id hc => hkeep id (hc ▸ List.mem_cons_self)
    have hrest := ih hstep hp.2 fun id hid => hkeep id (List.mem_cons_of_mem c hid)
    rw [Roster.stranded, h.strands hp.1, hrest]

/-- **A slot is given back unless its trigger is gone**: the registry takes for running the threads
that the host has not reported finished, and those whose triggers were gone when they ended, as long
as no trigger comes to an id that a thread goes by. If no trigger is removed there are none of the
latter. -/
theorem length_running (maxThreads perTrigger : Nat) {calls : List Call}
    (h : (Roster.new maxThreads perTrigger).Along Permits calls) :
    let s := (Roster.new maxThreads perTrigger).run calls
    ((Roster.new maxThreads perTrigger).Along Unshared calls →
      s.registry.running.length =
        s.threads.length + (Roster.new maxThreads perTrigger).stranded calls) ∧
      ((∀ id, Call.remove id ∉ calls) → s.registry.running.length = s.threads.length) := by
  have hnew : (Roster.new maxThreads perTrigger).Spare 0 := rfl
  have hrun := hnew.run (Sound.new maxThreads perTrigger) h
  rw [Nat.zero_add] at hrun
  refine ⟨hrun, fun hkeep => ?_⟩
  have hnone : (Roster.new maxThreads perTrigger).Attached := nofun
  have hspare := hrun (hnone.along_unshared hkeep)
  rw [hnone.stranded h hkeep] at hspare
  exact hspare

/-- Of two threads that end, one after its trigger was removed, one slot is given back. -/
theorem length_running_of_removed :
    let fire (id : TriggerId) : Call := .fire (fun _ _ => true) id 0 none .empty 0
    let calls : List Call := [.add ⟨"a", .hotkey, [{}]⟩, .add ⟨"b", .hotkey, [{}]⟩, fire 0, fire 1,
      .remove 0, .finish 0 0 .empty 1, fire 1, .finish 1 0 .empty 2]
    let s := (Roster.new 10 1).run calls
    (Roster.new 10 1).Along Permits calls ∧ (Roster.new 10 1).Along Unshared calls ∧
      s.threads = [(1, 0)] ∧ (Roster.new 10 1).stranded calls = 1 ∧
        s.registry.running.length = 2 := by
  intro fire calls s
  have hpermits : (Roster.new 10 1).Along Permits calls := by decide
  have hids : (Roster.new 10 1).Along Unshared calls := by decide
  have hthreads : s.threads = [(1, 0)] := by decide
  have hstranded : (Roster.new 10 1).stranded calls = 1 := by decide
  refine ⟨hpermits, hids, hthreads, hstranded, ?_⟩
  rw [(length_running 10 1 hpermits).1 hids, hthreads, hstranded]
  rfl

/-- The thread of a removed trigger ends, and the registry goes on to count it: no thread runs, and
one slot is taken for good. -/
theorem slot_kept_by_removed :
    let calls : List Call := [.add ⟨"t", .hotkey, [{}]⟩, .fire (fun _ _ => true) 0 0 none .empty 0,
      .remove 0, .finish 0 0 .empty 0]
    let s := (Roster.new 10 1).run calls
    (Roster.new 10 1).Along Permits calls ∧ s.threads = [] ∧ s.registry.running.length = 1 := by
  decide

end KeySynth.Registry.Roster
