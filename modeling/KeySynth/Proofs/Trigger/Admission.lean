import KeySynth.Proofs.Trigger.Roster

/-!
What holds of a registry whatever its host does with it, as long as the host reports a thread
finished only once and only after it was launched.
-/

namespace KeySynth

/-- A variant is within its limit, and waits to run again only at the limit. -/
def Variant.Within (v : Variant) : Prop :=
  ∃ n, v.maxThreads = some n ∧ v.running ≤ n ∧ (v.runAgain = true → v.running = n)

namespace Registry.Roster

variable (s : Roster)

/-- The counters fit each other: the threads of the host, those of the variants, and the stack of
priorities; all within the limit of the registry. -/
structure Sound (limit : Nat) : Prop where
  limit_eq : s.registry.maxThreads = limit
  keyed : s.registry.Keyed
  bounded : s.registry.running.length ≤ limit
  within : ∀ p ∈ s.registry.triggers, ∀ v ∈ p.2.variants, v.Within
  counted : ∀ p ∈ s.registry.triggers, ∀ i, s.threads.count (p.1, i) = p.2.runningOf i
  stacked : ∀ p, s.registry.runningAt p ≤ s.registry.running.count p

variable {s} {limit : Nat} {r : Registry} {threads : List (TriggerId × Nat)} {id : TriggerId}
  {i : Nat} {t : Trigger} {v : Variant}

namespace Sound

lemma new (maxThreads perTrigger : Nat) :
    (Roster.new maxThreads perTrigger).Sound (max maxThreads 1) where
  limit_eq := rfl
  keyed := List.nodup_nil
  bounded := by simp [Roster.new, Registry.new]
  within := by simp [Roster.new, Registry.new]
  counted := by simp [Roster.new, Registry.new]
  stacked := by simp [Roster.new, Registry.new, runningAt]

/-- A registered variant with a thread has that thread's priority on the stack. -/
lemma mem_running (h : s.Sound limit) (ht : (id, t) ∈ s.registry.triggers)
    (hv : t.variants[i]? = some v) (hpos : 0 < v.running) : v.priority ∈ s.registry.running := by
  have hpart : v.runningAt v.priority ≤ t.runningAt v.priority :=
    List.le_sum_of_mem (List.mem_map_of_mem (List.mem_of_getElem? hv))
  have hwhole : t.runningAt v.priority ≤ s.registry.runningAt v.priority :=
    List.le_sum_of_mem (List.mem_map.mpr ⟨(id, t), ht, rfl⟩)
  have hown : v.runningAt v.priority = v.running := if_pos rfl
  have hstack := h.stacked v.priority
  exact List.count_pos_iff.mp (by omega)

/-- A thread of a registered trigger is one of a variant, which counts it; its priority is on the
stack. -/
lemma exists_variant (h : s.Sound limit) (ht : s.registry.get? id = some t)
    (hth : (id, i) ∈ s.threads) :
    ∃ v, t.variants[i]? = some v ∧ 0 < v.running ∧ v.priority ∈ s.registry.running := by
  have hmem : (id, t) ∈ s.registry.triggers := mem_of_get? ht
  have hcount : s.threads.count (id, i) = t.runningOf i := h.counted _ hmem i
  have hpos : 0 < s.threads.count (id, i) := List.count_pos_iff.mpr hth
  rw [hcount] at hpos
  cases hv : t.variants[i]? with
  | none => simp [Trigger.runningOf, hv] at hpos
  | some v =>
    rw [Trigger.runningOf_of_some hv] at hpos
    exact ⟨v, rfl, hpos, h.mem_running hmem hv hpos⟩

/-- One variant changes its counters, and the host's threads and the stack follow it. -/
lemma settle (h : s.Sound limit) (ht : (id, t) ∈ s.registry.triggers) (hv : t.variants[i]? = some v)
    {f : Variant → Variant} {running : List Int} (pending : List Pending) (hw : (f v).Within)
    (hlen : running.length ≤ limit)
    (hthreads : ∀ p, threads.count p = if p = (id, i) then (f v).running else s.threads.count p)
    (hstack : ∀ p, s.registry.running.count p + (f v).runningAt p ≤
      running.count p + v.runningAt p) :
    Sound ⟨{ s.registry.modifyVariant id i f with running, pending }, threads⟩ limit := by
  have hkeys : (s.registry.modifyVariant id i f).Keyed := h.keyed.modifyVariant
  refine ⟨h.limit_eq, hkeys, hlen, fun p hp => ?_, fun p hp j => ?_, fun p => ?_⟩
  · rcases mem_modifyVariant h.keyed ht hp with rfl | ⟨-, hp⟩
    · intro w hmem
      obtain ⟨j, hj⟩ := List.mem_iff_getElem?.mp hmem
      rw [Trigger.modify, List.getElem?_modify] at hj
      by_cases hij : i = j
      · subst hij
        obtain rfl : f v = w := by simpa [hv] using hj
        exact hw
      · exact h.within _ ht w (List.mem_of_getElem? (by simpa [hij] using hj))
    · exact h.within p hp
  · rw [hthreads]
    rcases mem_modifyVariant h.keyed ht hp with rfl | ⟨hne, hp⟩
    · rw [Trigger.runningOf_modify hv, ← h.counted _ ht j]
      simp
    · rw [if_neg fun heq => hne (Prod.mk.inj heq).1]
      exact h.counted p hp j
  · have hmod := runningAt_modifyVariant (f := f) h.keyed ht hv p
    have hold := h.stacked p
    have hnew := hstack p
    change (s.registry.modifyVariant id i f).runningAt p ≤ running.count p
    omega

/-! ### The calls -/

/-- A thread of a trigger that is gone ends, and is counted nowhere. -/
lemma forget (h : s.Sound limit) (hgone : s.registry.get? id = none) (i : Nat) :
    Sound { s with threads := s.threads.erase (id, i) } limit := by
  refine ⟨h.limit_eq, h.keyed, h.bounded, h.within, fun p hp j => ?_, h.stacked⟩
  have hne : (p.1, j) ≠ (id, i) := fun heq => ne_of_get?_none hgone p hp (Prod.mk.inj heq).1
  rw [List.count_erase_of_ne hne]
  exact h.counted p hp j

/-- Nothing counts but the triggers, the stack and the limit. -/
lemma congr (h : s.Sound limit) (htriggers : r.triggers = s.registry.triggers)
    (hrunning : r.running = s.registry.running) (hmax : r.maxThreads = s.registry.maxThreads) :
    Sound ⟨r, s.threads⟩ limit where
  limit_eq := hmax.trans h.limit_eq
  keyed := by
    rw [Keyed, htriggers]
    exact h.keyed
  bounded := hrunning ▸ h.bounded
  within := htriggers ▸ h.within
  counted := htriggers ▸ h.counted
  stacked p := by
    rw [runningAt, htriggers, hrunning]
    exact h.stacked p

/-- A trigger without threads is registered under an id that no thread goes by. -/
lemma enroll (h : s.Sound limit) (hnew : s.registry.get? id = none)
    (hids : ∀ th ∈ s.threads, th.1 ≠ id)
    (hidle : ∀ v ∈ t.variants, ∃ n, v.maxThreads = some n ∧ v.running = 0 ∧ v.runAgain = false) :
    Sound ⟨{ s.registry with triggers := s.registry.triggers ++ [(id, t)] }, s.threads⟩ limit := by
  have hmem : ∀ p ∈ s.registry.triggers ++ [(id, t)],
      p ∈ s.registry.triggers ∨ p = (id, t) := fun p hp =>
    (List.mem_append.mp hp).imp_right List.mem_singleton.mp
  refine ⟨h.limit_eq, ?_, h.bounded, fun p hp => ?_, fun p hp j => ?_, fun p => ?_⟩
  · have hnot : id ∉ s.registry.triggers.map Prod.fst := by
      intro hmem
      obtain ⟨p, hp, heq⟩ := List.mem_map.mp hmem
      exact ne_of_get?_none hnew p hp heq
    change ((s.registry.triggers ++ [(id, t)]).map Prod.fst).Nodup
    rw [List.map_append]
    exact List.Nodup.append h.keyed (by simp) (by simpa using hnot)
  · rcases hmem p hp with hp | rfl
    · exact h.within p hp
    · intro v hv
      obtain ⟨n, hn, hrun, hagain⟩ := hidle v hv
      exact ⟨n, hn, by omega, by simp [hagain]⟩
  · rcases hmem p hp with hp | rfl
    · exact h.counted p hp j
    · have hzero : t.runningOf j = 0 := by
        cases hj : t.variants[j]? with
        | none => rw [Trigger.runningOf, hj, Option.elim_none]
        | some v =>
          obtain ⟨-, -, hrun, -⟩ := hidle v (List.mem_of_getElem? hj)
          rw [Trigger.runningOf_of_some hj, hrun]
      rw [hzero]
      exact List.count_eq_zero.mpr fun hth => hids _ hth rfl
  · have hzero : t.runningAt p = 0 := by
      refine List.sum_eq_zero fun n hn => ?_
      obtain ⟨v, hv, rfl⟩ := List.mem_map.mp hn
      obtain ⟨-, -, hrun, -⟩ := hidle v hv
      simp [Variant.runningAt, hrun]
    have hold := h.stacked p
    simp only [runningAt, List.map_append, List.map_singleton, List.sum_append, List.sum_singleton,
      hzero] at hold ⊢
    exact hold

lemma add (h : s.Sound limit) (hfresh : ∀ v ∈ t.variants, v.Fresh)
    (hids : s.Unshared (.add t)) : Sound ⟨(s.registry.add t).2, s.threads⟩ limit := by
  cases hused : s.registry.get? s.registry.nextId with
  | some u => exact h.congr (by simp [triggers_add, hused]) rfl rfl
  | none =>
    have hidle : ∀ v ∈ (s.registry.limited t).variants,
        ∃ n, v.maxThreads = some n ∧ v.running = 0 ∧ v.runAgain = false := by
      intro v hv
      obtain ⟨w, hw, rfl⟩ := List.mem_map.mp hv
      exact ⟨_, rfl, hfresh w hw⟩
    have hnone : ∀ th ∈ s.threads, th.1 ≠ s.registry.nextId := fun th hth heq =>
      hids th hth ⟨heq, heq ▸ hused⟩
    exact (h.enroll hused hnone hidle).congr (by simp [triggers_add, hused]) rfl rfl

lemma remove (h : s.Sound limit) {r : Registry} (hr : s.registry.remove id = .ok (t, r)) :
    Sound { s with registry := r } limit := by
  obtain rfl := eq_of_remove hr
  have hsub : (s.registry.triggers.filter (·.1 != id)).Sublist s.registry.triggers :=
    List.filter_sublist
  refine ⟨h.limit_eq, (hsub.map _).nodup h.keyed, h.bounded,
    fun p hp => h.within p (hsub.subset hp), fun p hp => h.counted p (hsub.subset hp),
    fun p => ?_⟩
  exact ((hsub.map _).sum_le_sum fun _ _ => Nat.zero_le _).trans (h.stacked p)

lemma queue (h : s.Sound limit) (pending : List Pending) :
    Sound { s with registry := { s.registry with pending } } limit :=
  h.congr rfl rfl rfl

/-- A registered variant is within its limit, and has as many threads as it counts. -/
lemma exists_counted (h : s.Sound limit) (hv : s.registry.variant? id i = some v) :
    ∃ t, (id, t) ∈ s.registry.triggers ∧ t.variants[i]? = some v ∧ v.Within ∧
      s.threads.count (id, i) = v.running := by
  obtain ⟨t, ht, hv⟩ := variant?_eq_some.mp hv
  have hmem : (id, t) ∈ s.registry.triggers := mem_of_get? ht
  exact ⟨t, hmem, hv, h.within _ hmem v (List.mem_of_getElem? hv),
    (h.counted _ hmem i).trans (Trigger.runningOf_of_some hv)⟩

lemma fired (h : s.Sound limit) {info : Tag} {a : Admission} (hf : Fired s.registry id info a r) :
    Sound ⟨r, s.threads ++ (thread? a).toList⟩ limit := by
  cases hf with
  | ignored =>
    simpa only [thread?, Option.toList_none, List.append_nil] using h
  | queued =>
    simp only [thread?, Option.toList_none, List.append_nil]
    exact h.queue _
  | @launched i v hv _ hgate =>
    obtain ⟨t, ht, hv, ⟨n, hmax, hle, hagain⟩, hcount⟩ := h.exists_counted hv
    obtain ⟨hall, hown⟩ := gate_of_launch hgate
    rw [h.limit_eq] at hall
    rw [hmax, Option.getD_some] at hown
    simp only [thread?, Option.toList_some]
    refine h.settle ht hv _ ⟨n, hmax, hown, fun hrun => ?_⟩ ?_ (fun p => ?_) fun p => ?_
    · have hfull := hagain hrun
      omega
    · rw [List.length_append, List.length_singleton]
      exact hall
    · rw [List.count_append, List.count_singleton]
      by_cases heq : p = (id, i)
      · simp [heq, hcount]
      · simp [heq, Ne.symm heq]
    · rw [List.count_append, List.count_singleton]
      by_cases heq : v.priority = p
      · simp [Variant.runningAt, heq]
        omega
      · simp [Variant.runningAt, heq]
  | @runAgain i v hv _ hgate =>
    obtain ⟨t, ht, hv, ⟨n, hmax, hle, -⟩, hcount⟩ := h.exists_counted hv
    have hfull := gate_of_runAgain hgate
    rw [hmax, Option.getD_some] at hfull
    simp only [thread?, Option.toList_none, List.append_nil]
    refine h.settle ht hv _ ⟨n, hmax, hle, fun _ => Nat.le_antisymm hle hfull⟩ h.bounded
      (fun p => ?_) fun p => Nat.le_refl _
    by_cases heq : p = (id, i)
    · rw [if_pos heq, heq, hcount]
    · rw [if_neg heq]

lemma ended (h : s.Sound limit) (hth : (id, i) ∈ s.threads) {a : Option Admission}
    (hg : (s.registry.get? id).isSome) (he : Ended s.registry id i a r) :
    Sound ⟨r, s.threads.erase (id, i) ++ (a.bind thread?).toList⟩ limit := by
  obtain ⟨u, hu⟩ := Option.isSome_iff_exists.mp hg
  obtain ⟨v, hv, hpos, hmem⟩ := h.exists_variant hu hth
  have hvar : s.registry.variant? id i = some v := variant?_eq_some.mpr ⟨u, hu, hv⟩
  obtain ⟨t, ht, hv, ⟨n, hmax, hle, -⟩, hcount⟩ := h.exists_counted hvar
  have hlen := length_eraseLast hmem
  have hstack : 0 < s.registry.running.count v.priority := List.count_pos_iff.mpr hmem
  cases he with
  | absent hnone => simp [hvar] at hnone
  | freed hw hagain =>
    obtain rfl := Option.some_inj.mp (hvar.symm.trans hw)
    simp only [Option.bind_none, Option.toList_none, List.append_nil]
    refine h.settle ht hv _ ⟨n, hmax, ?_, ?_⟩ ?_ (fun p => ?_) fun p => ?_
    · exact Nat.le_trans (Nat.sub_le _ _) hle
    · exact fun hrun => absurd hrun (by simp [hagain])
    · have hbound := h.bounded
      omega
    · rw [List.count_erase]
      by_cases heq : p = (id, i)
      · simp [heq, hcount]
      · simp [heq, Ne.symm heq]
    · rw [count_eraseLast]
      by_cases heq : v.priority = p
      · subst heq
        simp only [Variant.runningAt, if_true]
        omega
      · simp [Variant.runningAt, heq]
  | again hw hagain =>
    -- the thread that starts takes the place of the one that ended
    obtain rfl := Option.some_inj.mp (hvar.symm.trans hw)
    simp only [Option.bind_some, thread?, Option.toList_some]
    refine h.settle ht hv _ ⟨n, hmax, ?_, by simp⟩ ?_ (fun p => ?_) fun p => ?_
    · exact (Nat.sub_add_cancel hpos).trans_le hle
    · calc (eraseLast v.priority s.registry.running ++ [v.priority]).length
          = s.registry.running.length - 1 + 1 := by
            rw [List.length_append, List.length_singleton, hlen]
        _ = s.registry.running.length := Nat.sub_add_cancel (List.length_pos_of_mem hmem)
        _ ≤ limit := h.bounded
    · rw [List.count_append, List.count_erase, List.count_singleton]
      by_cases heq : p = (id, i)
      · simp [heq, hcount]
      · simp [heq, Ne.symm heq]
    · rw [List.count_append, count_eraseLast, List.count_singleton]
      by_cases heq : v.priority = p
      · subst heq
        simp [Variant.runningAt]
        omega
      · simp [Variant.runningAt, heq]

lemma step (h : s.Sound limit) {c : Call} (hc : s.Permits c) (hids : s.Unshared c) :
    (s.step c).Sound limit := by
  cases c with
  | add t => exact h.add hc hids
  | remove id =>
    simp only [Roster.step]
    split
    · exact h
    · exact h.remove ‹_›
  | fire answers id info hint ledger now =>
    simp only [Roster.step]
    split
    · exact h
    · exact h.fired (Registry.fired ‹_›)
  | drain answers ledger now =>
    exact step_drain (I := (Sound · limit)) answers ledger now (fun hI hf => hI.fired hf)
      (h.queue [])
  | finish id i ledger now =>
    simp only [Roster.step]
    split
    · exact h.forget (finish_eq_error ‹_›) i
    · exact h.ended hc (isSome_of_finish ‹_›) (Registry.ended ‹_›)

end Sound

lemma Sound.run {calls : List Call} (h : s.Sound limit) (hp : s.Along Permits calls)
    (hids : s.Along Unshared calls) : (s.run calls).Sound limit :=
  (hp.and hids).invariant (I := (Sound · limit)) (fun hI hc => hI.step hc.1 hc.2) h

/-- What a host may rely on. -/
structure InOrder (s : Roster) (limit : Nat) : Prop where
  /-- No more threads run than the registry allows. -/
  threads : s.registry.running.length ≤ limit
  /-- No more threads of a variant run than it allows, and it waits to run again only while they
  are as many. -/
  variants : ∀ p ∈ s.registry.triggers, ∀ v ∈ p.2.variants,
    ∃ n, v.maxThreads = some n ∧ v.running ≤ n ∧ (v.runAgain = true → v.running = n)
  /-- The stack holds a priority for every running thread of a registered variant. -/
  stack : ∀ p, s.registry.runningAt p ≤ s.registry.running.count p
  /-- A thread of a registered trigger that ends finds its priority on the stack. -/
  finds : ∀ id i t, (id, i) ∈ s.threads → s.registry.get? id = some t →
    ∃ v, t.variants[i]? = some v ∧ v.priority ∈ s.registry.running

lemma Sound.inOrder (h : s.Sound limit) : s.InOrder limit where
  threads := h.bounded
  variants := h.within
  stack := h.stacked
  finds id i t hth ht := by
    obtain ⟨v, hv, -, hmem⟩ := h.exists_variant ht hth
    exact ⟨v, hv, hmem⟩

/-! ### Ids that come round -/

/-- Triggers are added, and what is registered under ids that do not come up stays. -/
lemma run_replicate_add (s : Roster) (t : Trigger) (k : Nat) :
    let s' := s.run (List.replicate k (.add t))
    s'.threads = s.threads ∧ s'.registry.running = s.registry.running ∧
      s'.registry.nextId = s.registry.nextId + UInt32.ofNat k ∧
      ∀ j, (∀ m < k, j ≠ s.registry.nextId + UInt32.ofNat m) →
        s'.registry.get? j = s.registry.get? j := by
  induction k with
  | zero => exact ⟨rfl, rfl, (UInt32.add_zero _).symm, fun _ _ => rfl⟩
  | succ k ih =>
    obtain ⟨hthreads, hrunning, hnext, hget⟩ := ih
    rw [List.replicate_succ', run_snoc]
    refine ⟨hthreads, hrunning, ?_, fun j hj => ?_⟩
    · change (s.run (List.replicate k (.add t))).registry.nextId + 1 = _
      rw [hnext, UInt32.ofNat_add, UInt32.add_assoc]
      rfl
    · refine (get?_add_of_ne t ?_).trans (hget j fun m hm => hj m (Nat.lt_succ_of_lt hm))
      rw [hnext]
      exact hj k (Nat.lt_succ_self k)

/-- A thread of an earlier trigger ends as one of the trigger that has come to its id. -/
lemma step_finish_add (hfree : s.registry.get? s.registry.nextId = none) (hv : t.variants = [v])
    (hagain : v.runAgain = false) :
    let s' := (s.step (.add t)).step (.finish s.registry.nextId 0 .empty 0)
    s'.threads = s.threads.erase (s.registry.nextId, 0) ∧
      s'.registry.running = eraseLast v.priority s.registry.running ∧
      ∀ j ≠ s.registry.nextId, s'.registry.get? j = s.registry.get? j := by
  have hget : (s.registry.add t).2.get? s.registry.nextId = some (s.registry.limited t) := by
    rw [get?_add, hfree, if_pos rfl, Option.none_or]
  obtain ⟨w, hw, hprio, hrun⟩ : ∃ w, (s.registry.limited t).variants[0]? = some w ∧
      w.priority = v.priority ∧ w.runAgain = false :=
    ⟨{ v with maxThreads := some (v.maxThreads.getD s.registry.maxThreadsPerTrigger) },
      by simp [limited, hv], rfl, hagain⟩
  have hstep : (s.step (.add t)).step (.finish s.registry.nextId 0 .empty 0) =
      ⟨{ (s.registry.add t).2.modifyVariant s.registry.nextId 0
          (fun v => { v with running := v.running - 1 }) with
          running := eraseLast v.priority s.registry.running },
        s.threads.erase (s.registry.nextId, 0)⟩ := by
    simp only [Roster.step, finish, hget, hw, hrun, hprio, Bool.false_eq_true, if_false,
      Option.bind_none, Option.toList_none, List.append_nil]
    rfl
  rw [hstep]
  refine ⟨rfl, rfl, fun j hj => ?_⟩
  refine (get?_modifyVariant (r := (s.registry.add t).2)).trans ?_
  simp [get?_add_of_ne t hj, hj]

/-! ### Any run -/

/-- **A registry stays in order whatever its host does**: in whatever order triggers are added,
removed, fired, offered again and reported finished, and whatever the criteria answer, as long as no
trigger comes to an id that a thread goes by. There is none as long as no trigger is removed, or as
long as there is an id for each. -/
theorem run_inOrder (maxThreads perTrigger : Nat) {calls : List Call}
    (h : (Roster.new maxThreads perTrigger).Along Permits calls) :
    ((Roster.new maxThreads perTrigger).Along Unshared calls →
      ((Roster.new maxThreads perTrigger).run calls).InOrder (max maxThreads 1)) ∧
    ((∀ id, Call.remove id ∉ calls) ∨ calls.countP Call.isAdd ≤ 2 ^ 32 →
      (Roster.new maxThreads perTrigger).Along Unshared calls) :=
  ⟨fun hids => ((Sound.new maxThreads perTrigger).run h hids).inOrder,
    along_unshared maxThreads perTrigger⟩

/-- Two variants of one trigger run and are both asked for again; each next thread starts as soon
as the one before it has ended. -/
theorem run_inOrder_of_relaunch :
    let trigger : Trigger :=
      ⟨"t", .hotkey, [{ priority := 1, criterion := .when 0 }, { priority := 2 }]⟩
    let fire (answer : Bool) : Call := .fire (fun _ _ => answer) 0 0 none .empty 0
    let calls : List Call := [.add trigger, fire true, fire false, fire false,
      .finish 0 1 .empty 1, fire true, .finish 0 0 .empty 2]
    let s := (Roster.new 3 1).run calls
    (Roster.new 3 1).Along Permits calls ∧ s.threads = [(0, 1), (0, 0)] ∧
      s.registry.running = [2, 1] ∧ s.InOrder 3 := by
  intro trigger fire calls s
  have hpermits : (Roster.new 3 1).Along Permits calls := by decide
  have hthreads : s.threads = [(0, 1), (0, 0)] := by decide
  have hrunning : s.registry.running = [2, 1] := by decide
  obtain ⟨horder, hids⟩ := run_inOrder 3 1 hpermits
  exact ⟨hpermits, hthreads, hrunning, horder (hids (.inr (by decide)))⟩

/-- A registry that is made for no threads lets one run. And when the id 0 comes round again while a
thread goes by it, that thread ends as one of the new trigger, and takes the priority of another
thread off the stack. -/
theorem not_inOrder_of_shared :
    let trigger (p : Int) : Trigger := ⟨"t", .hotkey, [{ priority := p }]⟩
    let fire (id : TriggerId) : Call := .fire (fun _ _ => true) id 0 none .empty 0
    let before : List Call := [.add (trigger 0), .add (trigger 5), fire 0, fire 1, .remove 0]
    let round : List Call := List.replicate (2 ^ 32 - 2) (.add (trigger 0))
    let after : List Call := [.add (trigger 5), .finish 0 0 .empty 0]
    ((new 0 1).Along Permits [.add (trigger 0), fire 0] ∧
      ¬((new 0 1).run [.add (trigger 0), fire 0]).InOrder 0) ∧
    (new 10 1).Along Permits (before ++ (round ++ after)) ∧
      ¬((new 10 1).run (before ++ (round ++ after))).InOrder 10 := by
  intro trigger fire before round after
  have hfresh (p : Int) : ∀ v ∈ (trigger p).variants, v.Fresh := by simp [trigger, Variant.Fresh]
  refine ⟨⟨by decide, fun h => absurd h.threads (by decide)⟩, ?_⟩
  set s := (new 10 1).run before with hs
  have hnext : s.registry.nextId = 2 := by decide
  obtain ⟨k, hk⟩ : ∃ k, k = 2 ^ 32 - 2 := ⟨_, rfl⟩
  have hround : round = List.replicate k (.add (trigger 0)) := by rw [hk]
  obtain ⟨hthreads, hrunning, hwrap, hget⟩ := run_replicate_add s (trigger 0) k
  set m := s.run (List.replicate k (.add (trigger 0))) with hm
  -- the ids 0 and 1 do not come up
  have hlow : ∀ j : TriggerId, j.toNat < 2 → m.registry.get? j = s.registry.get? j := by
    refine fun j hj => hget j fun i hi heq => ?_
    have hnat := congrArg UInt32.toNat heq
    rw [hnext, UInt32.toNat_add, UInt32.toNat_ofNat'] at hnat
    change j.toNat = (2 + i % 2 ^ 32) % 2 ^ 32 at hnat
    omega
  have hzero : m.registry.nextId = 0 := by
    rw [hwrap, hnext, hk]
    decide
  have hfree : m.registry.get? m.registry.nextId = none := by
    rw [hzero, hlow 0 (by decide)]
    decide
  obtain ⟨hthreads', hrunning', hget'⟩ :=
    step_finish_add (t := trigger 5) (v := { priority := 5 }) hfree rfl rfl
  rw [hround, along_append, along_append, ← hs, run_append, run_append, ← hs, ← hm]
  rw [hzero] at hthreads' hrunning' hget'
  refine ⟨⟨by decide, along_of_forall (fun c hc _ => ?_) s, hfresh 5, ?_, trivial⟩, fun h => ?_⟩
  · exact List.eq_of_mem_replicate hc ▸ hfresh 0
  · change (0, 0) ∈ m.threads
    rw [hthreads]
    decide
  · obtain ⟨v, hv, hmem⟩ := h.finds 1 0
      ⟨"t", .hotkey, [{ priority := 5, maxThreads := some 1, running := 1 }]⟩
      (by
        change (1, 0) ∈ ((m.step (.add (trigger 5))).step (.finish 0 0 .empty 0)).threads
        rw [hthreads', hthreads]
        decide)
      (by
        change ((m.step (.add (trigger 5))).step (.finish 0 0 .empty 0)).registry.get? 1 = _
        rw [hget' 1 (by decide), hlow 1 (by decide)]
        decide)
    change v.priority ∈ ((m.step (.add (trigger 5))).step (.finish 0 0 .empty 0)).registry.running
      at hmem
    rw [hrunning', hrunning] at hmem
    obtain rfl := Option.some_inj.mp hv
    exact absurd hmem (by decide)

end Registry.Roster

end KeySynth
