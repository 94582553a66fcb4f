import KeySynth.Proofs.Trigger.Decision

/-!
What input on a trigger comes to, and what it leaves alone.

The input goes to one variant, and all that it can do to the registry and to the ledger is said by
`Effect`.
-/

namespace KeySynth.Registry

/-! ### The variant that input goes to -/

/-- Of the variants that may fire, input goes to the one asked for, else to the first. -/
inductive GoesTo (vs : List Variant) (mayFire : Variant → Bool) (hint : Option Nat) (i : Nat)
    (v : Variant) : Prop where
  | hinted : hint = some i → vs[i]? = some v → mayFire v = true → GoesTo vs mayFire hint i v
  | first : (∀ k w, hint = some k → vs[k]? = some w → mayFire w = false) →
      vs[i]? = some v → mayFire v = true →
      (∀ k < i, ∀ w, vs[k]? = some w → mayFire w = false) → GoesTo vs mayFire hint i v

variable {vs : List Variant} {mayFire : Variant → Bool} {hint : Option Nat} {i : Nat} {v : Variant}

lemma findIdx?_zipIdx (vs : List Variant) (mayFire : Variant → Bool) :
    vs.zipIdx.findIdx? (fun x => mayFire x.1) = vs.findIdx? mayFire := by
  have hfst : vs.zipIdx.map Prod.fst = vs := List.zipIdx_map_fst ..
  conv_rhs => rw [← hfst, List.findIdx?_map]
  rfl

lemma choose_eq_none : choose vs (fun _ => mayFire) hint = none ↔ ∀ v ∈ vs, mayFire v = false := by
  rw [choose, findIdx?_zipIdx, Option.or_eq_none_iff, List.findIdx?_eq_none_iff]
  refine and_iff_right_of_imp fun hno => Option.filter_eq_none_iff.mpr fun k _ => ?_
  cases hk : vs[k]? with
  | none => simp
  | some w => simp [hno w (List.mem_of_getElem? hk)]

lemma goesTo_of_choose (h : choose vs (fun _ => mayFire) hint = some i) :
    ∃ v, GoesTo vs mayFire hint i v := by
  rcases choose_eq_some.mp h with ⟨hhint, hi⟩ | ⟨hhint, hi, hbefore⟩
  · obtain ⟨v, hv, hmay⟩ := (Option.any_eq_true ..).mp hi
    exact ⟨v, .hinted hhint hv hmay⟩
  · obtain ⟨v, hv, hmay⟩ := (Option.any_eq_true ..).mp hi
    refine ⟨v, .first (fun k w hk hw => ?_) hv hmay fun k hk w hw => ?_⟩
    · simpa [hw] using hhint k hk
    · simpa [hw] using hbefore k hk

lemma GoesTo.getElem? (h : GoesTo vs mayFire hint i v) : vs[i]? = some v := by
  cases h with
  | hinted _ hv _ => exact hv
  | first _ hv _ _ => exact hv

/-! ### What becomes of the registry and of the ledger -/

/-- The triggers `ts` are those of `us` but for variant `i` of the trigger `id`, which is `w`. -/
structure Differ (us ts : List (TriggerId × Trigger)) (id : TriggerId) (i : Nat) (w : Variant) :
    Prop where
  ids : ts.map Prod.fst = us.map Prod.fst
  lookup : ∀ j, ts.lookup j = (us.lookup j).map fun t =>
    if j = id then { t with variants := t.variants.set i w } else t

/-- Input with the tag `info` goes to variant `i` of a trigger, which is `v`. -/
inductive Effect (r : Registry) (id : TriggerId) (info : Tag) (i : Nat) (v : Variant)
    (ledger : Ledger) (now : Nat) : Admission → Registry → Ledger → Prop where
  | launched {ts : List (TriggerId × Trigger)} : r.running.length < r.maxThreads →
      v.running < v.maxThreads.getD r.maxThreadsPerTrigger →
      (∀ top, r.running.getLast? = some top → top ≤ v.priority) →
      Differ r.triggers ts id i { v with running := v.running + 1 } →
      Effect r id info i v ledger now (.launched id i)
        { r with triggers := ts, running := r.running ++ [v.priority] }
        { ledger with hotkeyStart := some now }
  | runAgain {ts : List (TriggerId × Trigger)} : r.running.length < r.maxThreads →
      v.maxThreads.getD r.maxThreadsPerTrigger ≤ v.running →
      Differ r.triggers ts id i { v with runAgain := true } →
      Effect r id info i v ledger now .runAgainAfterFinished { r with triggers := ts } ledger
  | queued : r.maxThreads ≤ r.running.length ∨
        v.running < v.maxThreads.getD r.maxThreadsPerTrigger ∧
          (∃ top, r.running.getLast? = some top ∧ v.priority < top) →
      Effect r id info i v ledger now .queued
        { r with pending := r.pending ++ [⟨id, i, info⟩] } ledger

variable {r : Registry} {id : TriggerId} {t : Trigger} {info : Tag} {ledger : Ledger} {now : Nat}

lemma differ_modifyVariant (ht : r.get? id = some t) (hv : t.variants[i]? = some v)
    (f : Variant → Variant) :
    Differ r.triggers (r.modifyVariant id i f).triggers id i (f v) where
  ids := by
    rw [triggers_modifyVariant, List.map_map]
    rfl
  lookup j := by
    refine get?_modifyVariant.trans ?_
    by_cases hj : j = id
    · subst hj
      have hset : t.variants.modify i f = t.variants.set i (f v) := by
        simp [List.modify_eq_set_getElem?, hv]
      simp only [get?] at ht
      simp [get?, ht, Trigger.modify, hset]
    · simp [get?, hj]

lemma gate_below (h : r.gate v = .runAgain) : r.running.length < r.maxThreads := by
  unfold gate at h
  split_ifs at h with hall
  exact Nat.lt_of_not_le hall

lemma gate_of_queue (h : r.gate v = .queue) : r.maxThreads ≤ r.running.length ∨
    v.running < v.maxThreads.getD r.maxThreadsPerTrigger ∧
      ∃ top, r.running.getLast? = some top ∧ v.priority < top := by
  unfold gate at h
  split_ifs at h with hall hown htop
  · exact .inl hall
  · refine .inr ⟨Nat.lt_of_not_le hown, ?_⟩
    cases hlast : r.running.getLast? with
    | none => simp [hlast] at htop
    | some top => exact ⟨top, rfl, by simpa [hlast] using htop⟩

lemma effect_respond (info : Tag) (ledger : Ledger) (now : Nat) (ht : r.get? id = some t)
    (hv : t.variants[i]? = some v) : ∃ a r' ledger',
      r.respond id i v info ledger now = (a, r', ledger') ∧
        Effect r id info i v ledger now a r' ledger' := by
  have hdiffer := differ_modifyVariant ht hv
  unfold respond
  cases hgate : r.gate v with
  | launch =>
    obtain ⟨hall, hown⟩ := gate_of_launch hgate
    exact ⟨_, _, _, rfl, .launched hall hown (gate_top hgate) (hdiffer _)⟩
  | runAgain =>
    exact ⟨_, _, _, rfl, .runAgain (gate_below hgate) (gate_of_runAgain hgate)
      (hdiffer ({ · with runAgain := true }))⟩
  | queue => exact ⟨_, _, _, rfl, .queued (gate_of_queue hgate)⟩

/-- Input that has an effect is not ignored. -/
lemma Effect.ne_ignored {a : Admission} {r' : Registry} {ledger' : Ledger}
    (h : Effect r id info i v ledger now a r' ledger') : a ≠ .ignored := by
  cases h <;> simp

/-! ### The answer -/

variable {conditions : Nat → Bool}

lemma fire_of_get?_none (h : r.get? id = none) :
    r.fire conditions id info hint ledger now = .error (.unknownTrigger id) := by
  simp only [fire, fireUnder, h]

lemma fire_of_none (ht : r.get? id = some t)
    (h : ∀ v ∈ t.variants, v.eligible conditions info = false) :
    r.fire conditions id info hint ledger now = .ok (.ignored, r, ledger) := by
  simp only [fire, fireUnder, ht, choose_eq_none.mpr h]

lemma fire_of_some (ht : r.get? id = some t)
    (h : ∃ v ∈ t.variants, v.eligible conditions info = true) : ∃ i v a r' ledger',
      GoesTo t.variants (·.eligible conditions info) hint i v ∧
        r.fire conditions id info hint ledger now = .ok (a, r', ledger') ∧
        Effect r id info i v ledger now a r' ledger' := by
  cases hchoose : choose t.variants (fun _ => (·.eligible conditions info)) hint with
  | none =>
    obtain ⟨v, hv, hmay⟩ := h
    exact absurd (choose_eq_none.mp hchoose v hv) (by simp [hmay])
  | some i =>
    obtain ⟨v, hgoes⟩ := goesTo_of_choose hchoose
    have hv := hgoes.getElem?
    obtain ⟨a, r', ledger', hrespond, heffect⟩ := effect_respond info ledger now ht hv
    refine ⟨i, v, a, r', ledger', hgoes, ?_, heffect⟩
    simp only [fire, fireUnder, ht, hchoose, hv, hrespond]

/-- **One variant answers, and nothing else changes.** Input on a trigger that is not registered is
a fault. Else it is ignored, with registry and ledger as they were, exactly if no variant may fire;
and if one may, it goes to the one asked for, or to the first, and has just the effect that the
gates allow there. -/
theorem fire_effect (r : Registry) (conditions : Nat → Bool) (id : TriggerId) (info : Tag)
    (hint : Option Nat) (ledger : Ledger) (now : Nat) :
    let mayFire (v : Variant) := v.allows info && v.criterion.holds conditions
    let answer := r.fire conditions id info hint ledger now
    (∀ e, answer = .error e ↔ r.get? id = none ∧ e = .unknownTrigger id) ∧
    (∀ r' ledger', answer = .ok (.ignored, r', ledger') ↔
      (∃ t, r.get? id = some t ∧ ∀ v ∈ t.variants, mayFire v = false) ∧
        r' = r ∧ ledger' = ledger) ∧
    ∀ t, r.get? id = some t → (∃ v ∈ t.variants, mayFire v = true) → ∃ i v a r' ledger',
      GoesTo t.variants mayFire hint i v ∧ answer = .ok (a, r', ledger') ∧
        Effect r id info i v ledger now a r' ledger' := by
  intro mayFire answer
  refine ⟨fun e => ⟨fun h => ?_, ?_⟩, fun r' ledger' => ⟨fun h => ?_, ?_⟩,
    fun t ht hmay => fire_of_some ht hmay⟩
  · have hnone : r.get? id = none := fireUnder_eq_error h
    have hanswer : answer = .error (.unknownTrigger id) := fire_of_get?_none hnone
    exact ⟨hnone, Except.error.inj (h.symm.trans hanswer)⟩
  · rintro ⟨hnone, rfl⟩
    exact fire_of_get?_none hnone
  · obtain ⟨t, ht⟩ := Option.isSome_iff_exists.mp (isSome_of_fireUnder h)
    by_cases hmay : ∃ v ∈ t.variants, mayFire v = true
    · obtain ⟨i, v, a, s, ledger₁, -, hanswer, heffect⟩ := fire_of_some ht hmay
      obtain ⟨rfl, -⟩ := Prod.mk.inj (Except.ok.inj (hanswer.symm.trans h))
      exact absurd rfl heffect.ne_ignored
    · have hno : ∀ v ∈ t.variants, mayFire v = false := by simpa using hmay
      have hanswer : answer = .ok (.ignored, r, ledger) := fire_of_none ht hno
      cases hanswer.symm.trans h
      exact ⟨⟨t, ht, hno⟩, rfl, rfl⟩
  · rintro ⟨⟨t, ht, hno⟩, rfl, rfl⟩
    exact fire_of_none ht hno

/-- The variant asked for may not fire, so input goes to the first one that may. -/
theorem fire_effect_of_second :
    let t : Trigger := ⟨"t", .hotkey,
      [{ criterion := .when 0, maxThreads := some 1 }, { maxThreads := some 1 }]⟩
    let r := ((new 3 1).add t).2
    (∃ v ∈ t.variants, (v.allows 0 && v.criterion.holds fun _ => false) = true) ∧
    ∃ v r' ledger',
      r.fire (fun _ => false) 0 0 (some 0) .empty 5 = .ok (.launched 0 1, r', ledger') ∧
        Effect r 0 0 1 v .empty 5 (.launched 0 1) r' ledger' := by
  intro t r
  have hmay : ∃ v ∈ t.variants, (v.allows 0 && v.criterion.holds fun _ => false) = true := by
    decide
  obtain ⟨i, v, a, r', ledger', -, hanswer, heffect⟩ :=
    (fire_effect r (fun _ => false) 0 0 (some 0) .empty 5).2.2 t rfl hmay
  have hlaunch : (r.fire (fun _ => false) 0 0 (some 0) .empty 5).toOption.map (·.1) =
      some (.launched 0 1) := by decide
  rw [hanswer] at hlaunch
  obtain rfl : a = .launched 0 1 := Option.some_inj.mp hlaunch
  have hi : i = 1 := by cases heffect; rfl
  exact ⟨hmay, v, r', ledger', hanswer, hi ▸ heffect⟩

end KeySynth.Registry
