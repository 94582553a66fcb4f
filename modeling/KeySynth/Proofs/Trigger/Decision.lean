import KeySynth.Proofs.Trigger.Registry

/-!
What the registry decides.

`Fired` and `Ended` say all that input on a trigger and the end of a thread can do to a registry.
-/

namespace KeySynth.Registry

/-- Variant `i` of a registered trigger. -/
def variant? (r : Registry) (id : TriggerId) (i : Nat) : Option Variant :=
  (r.get? id).bind (·.variants[i]?)

variable {r r' : Registry} {id j : TriggerId} {i k : Nat} {t : Trigger} {v : Variant}
  {f : Variant → Variant}

lemma variant?_eq_some :
    r.variant? id i = some v ↔ ∃ t, r.get? id = some t ∧ t.variants[i]? = some v :=
  Option.bind_eq_some_iff

lemma get?_modifyVariant : (r.modifyVariant id i f).get? j =
    (r.get? j).map fun t => if j = id then t.modify i f else t := by
  unfold get?
  rw [triggers_modifyVariant]
  induction r.triggers with
  | nil => rfl
  | cons p ps ih =>
    obtain ⟨n, t⟩ := p
    by_cases hj : j = n
    · subst hj
      simp
    · simpa [List.lookup_cons, beq_false_of_ne hj] using ih

lemma variant?_modifyVariant : (r.modifyVariant id i f).variant? j k =
    (r.variant? j k).map fun v => if j = id ∧ k = i then f v else v := by
  unfold variant?
  rw [get?_modifyVariant]
  cases r.get? j with
  | none => rfl
  | some t =>
    by_cases hj : j = id
    · by_cases hk : k = i
      · simp [hj, hk, Trigger.modify]
      · simp [hj, hk, Ne.symm hk, Trigger.modify]
    · simp [hj]

lemma isSome_get?_modifyVariant :
    ((r.modifyVariant id i f).get? j).isSome = (r.get? j).isSome := by
  rw [get?_modifyVariant, Option.isSome_map]

lemma triggers_add (t : Trigger) : (r.add t).2.triggers =
    if (r.get? r.nextId).isSome then r.triggers
    else r.triggers ++ [(r.nextId, r.limited t)] := rfl

/-- What is registered stays so, and only the next id can become another one. -/
lemma get?_add (t : Trigger) : (r.add t).2.get? j =
    (r.get? j).or (if j = r.nextId then some (r.limited t) else none) := by
  rw [get?, triggers_add]
  split_ifs with hused hj hj
  · obtain ⟨u, hu⟩ := Option.isSome_iff_exists.mp hused
    rw [hj, hu]
    exact hu
  · exact Option.or_none.symm
  · rw [List.lookup_append, hj, List.lookup_cons_self]
    rfl
  · rw [List.lookup_append, List.lookup_cons, beq_false_of_ne hj]
    rfl

lemma get?_add_of_ne (t : Trigger) (h : j ≠ r.nextId) : (r.add t).2.get? j = r.get? j := by
  rw [get?_add, if_neg h, Option.or_none]

lemma eq_of_remove (h : r.remove id = .ok (t, r')) :
    r' = { r with triggers := r.triggers.filter (·.1 != id) } := by
  unfold remove at h
  split at h <;> cases h
  rfl

lemma get?_remove (h : r.remove id = .ok (t, r')) :
    r'.get? j = if j = id then none else r.get? j := by
  obtain rfl := eq_of_remove h
  unfold get?
  split_ifs with hj
  · exact List.lookup_eq_none_iff.mpr fun p hp => by
      simpa [hj, @eq_comm _ id] using (List.mem_filter.mp hp).2
  · induction r.triggers with
    | nil => rfl
    | cons p ps ih =>
      obtain ⟨n, u⟩ := p
      by_cases hn : n = id
      · simpa [hn, List.lookup_cons, beq_false_of_ne hj] using ih
      · have hrest : List.lookup j (ps.filter (·.1 != id)) = List.lookup j ps := ih
        simp [hn, List.lookup_cons, hrest]

/-! ### The choice of a variant -/

/-- The variant that input with the tag `info` goes to. -/
def chosen? (r : Registry) (answers : Answers) (id : TriggerId) (info : Tag) (hint : Option Nat) :
    Option Nat :=
  (r.get? id).bind fun t => choose t.variants (fun q v => v.eligible (answers q) info) hint

section Choose

variable {vs : List Variant} {eligible : Nat → Variant → Bool} {hint : Option Nat}

lemma findIdx?_zipIdx_eq_some :
    vs.zipIdx.findIdx? (fun (v, k) => eligible (k + 1) v) = some i ↔
      vs[i]?.any (eligible (i + 1)) = true ∧ ∀ k < i, vs[k]?.any (eligible (k + 1)) = false := by
  rw [List.findIdx?_eq_some_iff_getElem]
  constructor
  · rintro ⟨hlt, hi, hbefore⟩
    rw [List.length_zipIdx] at hlt
    refine ⟨by simpa [hlt] using hi, fun k hk => ?_⟩
    simpa [Nat.lt_trans hk hlt] using hbefore k hk
  · rintro ⟨hi, hbefore⟩
    have hlt : i < vs.length := by
      by_contra hge
      simp [List.getElem?_eq_none (Nat.le_of_not_lt hge)] at hi
    refine ⟨by simpa using hlt, by simpa [hlt] using hi, fun k hk => ?_⟩
    simpa [Nat.lt_trans hk hlt] using hbefore k hk

/-- The variant asked for is chosen if it may fire, else the first that may. -/
lemma choose_eq_some : choose vs eligible hint = some i ↔
    (hint = some i ∧ vs[i]?.any (eligible 0) = true) ∨
      (∀ k, hint = some k → vs[k]?.any (eligible 0) = false) ∧
        vs[i]?.any (eligible (i + 1)) = true ∧
          ∀ k < i, vs[k]?.any (eligible (k + 1)) = false := by
  rw [choose, Option.or_eq_some_iff, findIdx?_zipIdx_eq_some, Option.filter_eq_some_iff,
    Option.filter_eq_none_iff]
  simp only [Bool.not_eq_true]

/-- A variant is chosen only if it may fire. -/
lemma eligible_of_choose (h : choose vs eligible hint = some i) :
    ∃ v q, vs[i]? = some v ∧ eligible q v = true := by
  have hmay : ∃ q, vs[i]?.any (eligible q) = true := by
    rcases choose_eq_some.mp h with ⟨-, hi⟩ | ⟨-, hi, -⟩
    · exact ⟨0, hi⟩
    · exact ⟨i + 1, hi⟩
  obtain ⟨q, hmay⟩ := hmay
  obtain ⟨v, hv, he⟩ := (Option.any_eq_true ..).mp hmay
  exact ⟨v, q, hv, he⟩

end Choose

/-- Nothing but what may fire decides which variant is chosen. -/
lemma choose_congr {vs ws : List Variant} {eligible : Nat → Variant → Bool}
    (h : ∀ q k : Nat, ws[k]?.map (eligible q) = vs[k]?.map (eligible q)) (hint : Option Nat) :
    choose ws eligible hint = choose vs eligible hint := by
  have hhint (k : Nat) : ws[k]?.any (eligible 0) = vs[k]?.any (eligible 0) := by
    simpa [Option.any_map, Function.comp_def] using congrArg (Option.any id) (h 0 k)
  have hfirst : ws.zipIdx.map (fun p => eligible (p.2 + 1) p.1) =
      vs.zipIdx.map fun p => eligible (p.2 + 1) p.1 := by
    refine List.ext_getElem? fun k => ?_
    simpa [List.getElem?_zipIdx, Option.map_map, Function.comp_def] using h (k + 1) k
  have hfind := congrArg (List.findIdx? id) hfirst
  rw [List.findIdx?_map, List.findIdx?_map] at hfind
  simp only [choose, hhint]
  exact congrArg _ hfind

lemma chosen?_modifyVariant
    (hf : ∀ conditions info v, (f v).eligible conditions info = v.eligible conditions info) :
    (r.modifyVariant id i f).chosen? = r.chosen? := by
  funext answers j info hint
  unfold chosen?
  rw [get?_modifyVariant, Option.bind_map]
  congr 1
  funext t
  simp only [Function.comp_apply]
  split_ifs with hj
  · refine choose_congr (fun q k => ?_) hint
    rw [Trigger.modify, List.getElem?_modify, Option.map_eq_map, Option.map_map]
    congr 1
    funext v
    by_cases hk : i = k <;> simp [hk, hf]
  · rfl

/-- Input is ignored, or one variant responds to it. -/
lemma eq_of_fireUnder {answers : Answers} {info : Tag} {hint : Option Nat}
    {ledger ledger' : Ledger} {now : Nat} {a : Admission}
    (h : r.fireUnder answers id info hint ledger now = .ok (a, r', ledger')) :
    r.chosen? answers id info hint = none ∧ (a, r', ledger') = (.ignored, r, ledger) ∨
      ∃ i v, r.chosen? answers id info hint = some i ∧ r.variant? id i = some v ∧
        v.allows info = true ∧ (a, r', ledger') = r.respond id i v info ledger now := by
  unfold fireUnder at h
  split at h
  · cases h
  rename_i t ht
  have hchosen : r.chosen? answers id info hint =
      choose t.variants (fun q v => v.eligible (answers q) info) hint := by
    rw [Registry.chosen?, ht, Option.bind_some]
  rw [hchosen]
  split at h
  · rename_i hnone
    exact .inl ⟨hnone, (Except.ok.inj h).symm⟩
  · rename_i i hi
    obtain ⟨v, q, hv, he⟩ := eligible_of_choose hi
    have hallow : v.allows info = true := (Bool.and_eq_true_iff.mp he).1
    simp only [hv, Except.ok.injEq] at h
    exact .inr ⟨i, v, hi, variant?_eq_some.mpr ⟨t, ht, hv⟩, hallow, h.symm⟩

/-! ### One decision -/

/-- What becomes of a registry whose trigger is fired by input with the tag `info`. -/
inductive Fired (r : Registry) (id : TriggerId) (info : Tag) : Admission → Registry → Prop where
  | ignored : Fired r id info .ignored r
  | launched {i : Nat} {v : Variant} : r.variant? id i = some v → v.allows info = true →
      r.gate v = .launch → Fired r id info (.launched id i)
        { r.modifyVariant id i (fun v => { v with running := v.running + 1 }) with
          running := r.running ++ [v.priority] }
  | runAgain {i : Nat} {v : Variant} : r.variant? id i = some v → v.allows info = true →
      r.gate v = .runAgain → Fired r id info .runAgainAfterFinished
        (r.modifyVariant id i ({ · with runAgain := true }))
  | queued {i : Nat} {v : Variant} : r.variant? id i = some v → v.allows info = true →
      r.gate v = .queue → Fired r id info .queued
        { r with pending := r.pending ++ [⟨id, i, info⟩] }

lemma fired {answers : Answers} {info : Tag} {hint : Option Nat} {ledger ledger' : Ledger}
    {now : Nat} {a : Admission}
    (h : r.fireUnder answers id info hint ledger now = .ok (a, r', ledger')) :
    Fired r id info a r' := by
  rcases eq_of_fireUnder h with ⟨-, he⟩ | ⟨i, v, -, hv, hallow, he⟩
  · cases he
    exact .ignored
  · unfold respond at he
    split at he <;> rename_i hgate <;> cases he
    · exact .launched hv hallow hgate
    · exact .runAgain hv hallow hgate
    · exact .queued hv hallow hgate

/-- Threads that start do not change who may fire. -/
lemma Fired.chosen? {info : Tag} {a : Admission} (h : Fired r id info a r') :
    r'.chosen? = r.chosen? := by
  cases h with
  | ignored | queued => rfl
  | launched => exact chosen?_modifyVariant fun _ _ _ => rfl
  | runAgain => exact chosen?_modifyVariant fun _ _ _ => rfl

lemma fireUnder_eq_error {answers : Answers} {info : Tag} {hint : Option Nat} {ledger : Ledger}
    {now : Nat} {e : Fault} (h : r.fireUnder answers id info hint ledger now = .error e) :
    r.get? id = none := by
  unfold fireUnder at h
  split at h
  · assumption
  · split at h
    · cases h
    · split at h <;> cases h

lemma isSome_of_fireUnder {answers : Answers} {info : Tag} {hint : Option Nat} {ledger : Ledger}
    {now : Nat} {x : Admission × Registry × Ledger}
    (h : r.fireUnder answers id info hint ledger now = .ok x) : (r.get? id).isSome := by
  unfold fireUnder at h
  split at h
  · cases h
  · rename_i ht
    rw [ht]
    rfl

lemma exists_of_answer {answers : Answers} {info : Tag} {hint : Option Nat} {ledger : Ledger}
    {now : Nat} {a : Admission}
    (h : (r.fireUnder answers id info hint ledger now).toOption.map (·.1) = some a) :
    ∃ r' ledger', r.fireUnder answers id info hint ledger now = .ok (a, r', ledger') := by
  obtain ⟨⟨b, r', ledger'⟩, hx, rfl⟩ := Option.map_eq_some_iff.mp h
  cases hfire : r.fireUnder answers id info hint ledger now with
  | error e => simp [hfire, Except.toOption] at hx
  | ok x => exact ⟨r', ledger', congrArg Except.ok (by simpa [hfire, Except.toOption] using hx)⟩

/-- What becomes of a registry when a thread of variant `i` has ended. -/
inductive Ended (r : Registry) (id : TriggerId) (i : Nat) : Option Admission → Registry → Prop where
  | absent : r.variant? id i = none → Ended r id i none r
  | freed {v : Variant} : r.variant? id i = some v → v.runAgain = false → Ended r id i none
      { r.modifyVariant id i (fun v => { v with running := v.running - 1 }) with
        running := eraseLast v.priority r.running }
  | again {v : Variant} : r.variant? id i = some v → v.runAgain = true →
      Ended r id i (some (.launched id i))
        { r.modifyVariant id i
            (fun v => { v with running := v.running - 1 + 1, runAgain := false }) with
          running := eraseLast v.priority r.running ++ [v.priority] }

lemma ended {ledger ledger' : Ledger} {now : Nat} {a : Option Admission}
    (h : r.finish id i ledger now = .ok (a, r', ledger')) : Ended r id i a r' := by
  unfold finish at h
  split at h
  · cases h
  rename_i t ht
  split at h
  · rename_i hv
    cases h
    exact .absent (by simp [variant?, ht, hv])
  rename_i v hv
  have hvar : r.variant? id i = some v := variant?_eq_some.mpr ⟨t, ht, hv⟩
  split at h
  · rename_i hagain
    -- the three changes of the variant are one
    have hone : (fun v : Variant => { v with running := v.running - 1 + 1, runAgain := false }) =
        (fun v => { v with running := v.running + 1 }) ∘ ({ · with runAgain := false }) ∘
          fun v => { v with running := v.running - 1 } := rfl
    have hagain' := Ended.again hvar hagain
    rw [hone, ← modifyVariant_modifyVariant, ← modifyVariant_modifyVariant] at hagain'
    cases h
    exact hagain'
  · rename_i hagain
    cases h
    exact .freed hvar (Bool.not_eq_true _ ▸ hagain)

lemma finish_eq_error {ledger : Ledger} {now : Nat} {e : Fault}
    (h : r.finish id i ledger now = .error e) : r.get? id = none := by
  unfold finish at h
  split at h
  · assumption
  · split at h
    · cases h
    · dsimp only at h
      split at h <;> cases h

lemma isSome_of_finish {ledger : Ledger} {now : Nat} {x : Option Admission × Registry × Ledger}
    (h : r.finish id i ledger now = .ok x) : (r.get? id).isSome := by
  unfold finish at h
  split at h
  · cases h
  · rename_i ht
    rw [ht]
    rfl

/-- The same triggers are registered under the same ids, and as many ids were given out. -/
structure SameIds (r r' : Registry) : Prop where
  get? : ∀ j, (r'.get? j).isSome = (r.get? j).isSome
  nextId : r'.nextId = r.nextId

lemma SameIds.trans {r'' : Registry} (h : r.SameIds r') (h' : r'.SameIds r'') : r.SameIds r'' where
  get? j := (h'.get? j).trans (h.get? j)
  nextId := h'.nextId.trans h.nextId

/-- No decision registers a trigger or takes one away. -/
lemma Fired.sameIds {info : Tag} {a : Admission} (h : Fired r id info a r') : r.SameIds r' := by
  cases h with
  | ignored | queued => exact ⟨fun _ => rfl, rfl⟩
  | launched => exact ⟨fun _ => isSome_get?_modifyVariant, rfl⟩
  | runAgain => exact ⟨fun _ => isSome_get?_modifyVariant, rfl⟩

lemma Ended.sameIds {a : Option Admission} (h : Ended r id i a r') : r.SameIds r' := by
  cases h with
  | absent => exact ⟨fun _ => rfl, rfl⟩
  | freed => exact ⟨fun _ => isSome_get?_modifyVariant, rfl⟩
  | again => exact ⟨fun _ => isSome_get?_modifyVariant, rfl⟩

/-- A thread is only started for a registered trigger. -/
lemma Fired.isSome_of_launched {info : Tag} (h : Fired r id info (.launched j k) r') :
    (r.get? j).isSome := by
  cases h with
  | launched hv _ _ =>
    obtain ⟨t, ht, -⟩ := variant?_eq_some.mp hv
    rw [ht]
    rfl

end KeySynth.Registry
