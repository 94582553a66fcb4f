import KeySynth.Proofs.Trigger.Roster

/-!
What becomes of an admission that is queued.

Here every entry of the queue has a number, that of the call which was answered by it. An entry
that is offered and queued again keeps its number, so that it can be followed along a run.
-/

namespace KeySynth

/-- What an entry of the queue asks for, whichever variant it was meant for. -/
def Pending.asks (p : Pending) : TriggerId × Tag := (p.id, p.info)

namespace Registry

/-- What becomes of each entry, if they are offered in turn; an entry whose trigger is gone is not
answered. -/
def outcomes (now : Nat) : (answers : Nat → Answers) → List Pending → Registry → Ledger →
    List (Option Admission)
  | _, [], _, _ => []
  | answers, p :: ps, r, ledger =>
    match r.fireUnder (answers 0) p.id p.info (some p.variant) ledger now with
    | .error _ => none :: outcomes now (answers <| · + 1) ps r ledger
    | .ok (a, r, ledger) => some a :: outcomes now (answers <| · + 1) ps r ledger

/-- Each entry is offered once, in turn, with what it was queued with, in the registry that those
before it have left; `os` is what becomes of them, `r'` and `ledger'` are what they leave. -/
inductive Offers (now : Nat) : (answers : Nat → Answers) → List Pending → Registry → Ledger →
    (os : List (Option Admission)) → (r' : Registry) → (ledger' : Ledger) → Prop where
  | nil {answers : Nat → Answers} {r : Registry} {ledger : Ledger} :
      Offers now answers [] r ledger [] r ledger
  | gone {answers : Nat → Answers} {p : Pending} {ps : List Pending} {r r' : Registry}
      {ledger ledger' : Ledger} {os : List (Option Admission)} {e : Fault} :
      r.fireUnder (answers 0) p.id p.info (some p.variant) ledger now = .error e →
      Offers now (answers <| · + 1) ps r ledger os r' ledger' →
      Offers now answers (p :: ps) r ledger (none :: os) r' ledger'
  | answered {answers : Nat → Answers} {p : Pending} {ps : List Pending} {r r₁ r' : Registry}
      {ledger ledger₁ ledger' : Ledger} {os : List (Option Admission)} {a : Admission} :
      r.fireUnder (answers 0) p.id p.info (some p.variant) ledger now = .ok (a, r₁, ledger₁) →
      Offers now (answers <| · + 1) ps r₁ ledger₁ os r' ledger' →
      Offers now answers (p :: ps) r ledger (some a :: os) r' ledger'

/-- What becomes of each entry of the queue in a drain. -/
def drained (r : Registry) (answers : Nat → Answers) (ledger : Ledger) (now : Nat) :
    List (Option Admission) :=
  outcomes now answers r.pending { r with pending := [] } ledger

/-- Those of a list whose outcome is to be queued again. -/
def requeued {α : Type} (xs : List α) (os : List (Option Admission)) : List α :=
  ((xs.zip os).filter (·.2 = some .queued)).map (·.1)

variable {r r' : Registry} {id : TriggerId} {α β : Type} {now k : Nat} {answers : Nat → Answers}
  {ledger ledger' : Ledger} {p : Pending} {ps : List Pending} {xs : List α}
  {os : List (Option Admission)}

/-! ### Queued again -/

lemma requeued_cons (x : α) (xs : List α) (o : Option Admission) (os : List (Option Admission)) :
    requeued (x :: xs) (o :: os) =
      if o = some .queued then x :: requeued xs os else requeued xs os := by
  by_cases h : o = some .queued <;> simp [requeued, h]

lemma map_requeued (f : α → β) : (requeued xs os).map f = requeued (xs.map f) os := by
  simp [requeued, List.zip_map_left, List.filter_map, Function.comp_def]

lemma zip_requeued : ∀ {xs : List α} {ys : List β}, xs.length = ys.length →
    ∀ os, (requeued xs os).zip (requeued ys os) = requeued (xs.zip ys) os
  | [], [], _, _ | _ :: _, _ :: _, _, [] => by simp [requeued]
  | x :: xs, y :: ys, h, o :: os => by
    have ih := zip_requeued (Nat.succ.inj h) os
    rw [List.zip_cons_cons, requeued_cons, requeued_cons, requeued_cons]
    split_ifs
    · rw [List.zip_cons_cons, ih]
    · exact ih

lemma requeued_sublist : ∀ (xs : List α) (os : List (Option Admission)),
    (requeued xs os).Sublist xs
  | [], _ | _ :: _, [] => by simp [requeued]
  | x :: xs, o :: os => by
    rw [requeued_cons]
    split_ifs
    · exact (requeued_sublist xs os).cons_cons x
    · exact (requeued_sublist xs os).cons x

lemma length_requeued {ys : List β} (h : xs.length = ys.length) :
    (requeued xs os).length = (requeued ys os).length := by
  have hunit : (requeued xs os).map (fun _ => ()) = (requeued ys os).map (fun _ => ()) := by
    rw [map_requeued, map_requeued, List.map_const', List.map_const', h]
  simpa using congrArg List.length hunit

lemma mem_requeued {x : α} :
    x ∈ requeued xs os ↔ ∃ k : Nat, xs[k]? = some x ∧ os[k]? = some (some .queued) := by
  have hzip : x ∈ requeued xs os ↔ (x, some .queued) ∈ xs.zip os := by simp [requeued]
  rw [hzip, List.mem_iff_getElem?]
  simp only [List.getElem?_zip_eq_some]

/-! ### A drain -/

lemma Fired.asks {info : Tag} {a : Admission} (h : Fired r id info a r') :
    r'.pending.map (·.asks) =
      r.pending.map (·.asks) ++ if a = .queued then [(id, info)] else [] := by
  cases h with
  | queued => simp [Pending.asks]
  | ignored | launched | runAgain => simp [modifyVariant]

lemma offers_offer (now : Nat) (answers : Nat → Answers) (ps : List Pending) (r : Registry)
    (ledger : Ledger) : let (_, r', ledger') := offer now answers ps r ledger
    Offers now answers ps r ledger (outcomes now answers ps r ledger) r' ledger' := by
  induction ps generalizing answers r ledger with
  | nil => exact .nil
  | cons p ps ih =>
    cases h : r.fireUnder (answers 0) p.id p.info (some p.variant) ledger now with
    | error =>
      simp only [outcomes, offer, h]
      exact .gone h (ih _ _ _)
    | ok x =>
      obtain ⟨a, r₁, ledger₁⟩ := x
      simp only [outcomes, offer, h]
      exact .answered h (ih _ _ _)

/-- A drain offers the whole queue. -/
lemma offers_drained (r : Registry) (answers : Nat → Answers) (ledger : Ledger) (now : Nat) :
    let (_, r', ledger') := r.drainUnder answers ledger now
    Offers now answers r.pending { r with pending := [] } ledger (r.drained answers ledger now)
      r' ledger' :=
  offers_offer now answers r.pending { r with pending := [] } ledger

lemma Offers.length (h : Offers now answers ps r ledger os r' ledger') :
    os.length = ps.length := by
  induction h with
  | nil => rfl
  | gone _ _ ih | answered _ _ ih => rw [List.length_cons, List.length_cons, ih]

/-- Nothing becomes of an entry just if its trigger is gone. -/
lemma Offers.getElem?_eq_none (h : Offers now answers ps r ledger os r' ledger')
    (hp : ps[k]? = some p) : os[k]? = some none ↔ r.get? p.id = none := by
  induction h generalizing k with
  | nil => cases hp
  | gone hfire _ ih =>
    cases k with
    | zero =>
      obtain rfl := Option.some_inj.mp hp
      exact iff_of_true rfl (fireUnder_eq_error hfire)
    | succ k => exact ih hp
  | answered hfire _ ih =>
    cases k with
    | zero =>
      obtain rfl := Option.some_inj.mp hp
      exact iff_of_false nofun (Option.isSome_iff_ne_none.mp (isSome_of_fireUnder hfire))
    | succ k =>
      have hsome := (fired hfire).sameIds.get? p.id
      rw [← Option.not_isSome_iff_eq_none, ← hsome, Option.not_isSome_iff_eq_none]
      exact ih hp

/-- What is left in the queue is what is queued again. -/
lemma Offers.asks (h : Offers now answers ps r ledger os r' ledger') :
    r'.pending.map (·.asks) =
      r.pending.map (·.asks) ++ requeued (ps.map (·.asks)) os := by
  induction h with
  | nil => exact (List.append_nil _).symm
  | gone _ _ ih => rw [ih, List.map_cons, requeued_cons, if_neg nofun]
  | answered hfire _ ih =>
    rw [ih, (fired hfire).asks, List.append_assoc, List.map_cons, requeued_cons]
    simp only [Option.some_inj]
    split_ifs <;> rfl

lemma reduceOption_outcomes :
    (outcomes now answers ps r ledger).reduceOption = (offer now answers ps r ledger).1 := by
  induction ps generalizing answers r ledger with
  | nil => rfl
  | cons p ps ih =>
    cases h : r.fireUnder (answers 0) p.id p.info (some p.variant) ledger now with
    | error => simp [outcomes, offer, h, List.reduceOption_cons_of_none, ih]
    | ok => simp [outcomes, offer, h, List.reduceOption_cons_of_some, ih]

/-! ### A call -/

/-- What a call makes of the queue; `new` is how an entry that is added is seen. -/
def queueAfter (r : Registry) (new : TriggerId → Tag → α) (xs : List α) : Call → List α
  | .fire answers id info hint ledger now =>
    match r.fireUnder answers id info hint ledger now with
    | .ok (.queued, _, _) => xs ++ [new id info]
    | _ => xs
  | .drain answers ledger now => requeued xs (r.drained answers ledger now)
  | .add _ | .remove _ | .finish .. => xs

lemma length_queueAfter {new : TriggerId → Tag → α} {new' : TriggerId → Tag → β} {ys : List β}
    (h : xs.length = ys.length) (c : Call) :
    (r.queueAfter new xs c).length = (r.queueAfter new' ys c).length := by
  cases c with
  | add | remove | finish => exact h
  | fire =>
    simp only [queueAfter]
    split <;> simp [h]
  | drain => exact length_requeued h

lemma zip_queueAfter {new : TriggerId → Tag → α} {new' : TriggerId → Tag → β} {ys : List β}
    (h : xs.length = ys.length) (c : Call) :
    (r.queueAfter new xs c).zip (r.queueAfter new' ys c) =
      r.queueAfter (fun id info => (new id info, new' id info)) (xs.zip ys) c := by
  cases c with
  | add | remove | finish => rfl
  | fire =>
    simp only [queueAfter]
    split
    · rw [List.zip_append h]
      rfl
    · rfl
  | drain => exact zip_requeued h _

/-- Nothing changes its place, and what is added is added at the end. -/
lemma queueAfter_sublist (r : Registry) (new : TriggerId → Tag → α) (xs : List α) (c : Call) :
    ∃ id info, (r.queueAfter new xs c).Sublist (xs ++ [new id info]) := by
  have hsame : xs.Sublist (xs ++ [new 0 0]) := List.sublist_append_left _ _
  cases c with
  | add | remove | finish => exact ⟨0, 0, hsame⟩
  | fire answers id info =>
    simp only [queueAfter]
    split
    · exact ⟨id, info, .refl _⟩
    · exact ⟨0, 0, hsame⟩
  | drain => exact ⟨0, 0, (requeued_sublist _ _).trans hsame⟩

lemma asks_step (s : Roster) (c : Call) : (s.step c).registry.pending.map (·.asks) =
    s.registry.queueAfter Prod.mk (s.registry.pending.map (·.asks)) c := by
  cases c with
  | add => rfl
  | remove id =>
    simp only [queueAfter, Roster.step]
    split
    · rfl
    · rename_i hr
      obtain rfl := eq_of_remove hr
      rfl
  | fire answers id info hint ledger now =>
    simp only [queueAfter, Roster.step]
    cases hr : s.registry.fireUnder answers id info hint ledger now with
    | error => rfl
    | ok x =>
      obtain ⟨a, r, ledger'⟩ := x
      cases a <;> simp [(fired hr).asks]
  | drain answers ledger now =>
    exact (offers_drained s.registry answers ledger now).asks
  | finish id i ledger now =>
    simp only [queueAfter, Roster.step]
    split
    · rfl
    · rename_i hr
      cases ended hr <;> rfl

/-! ### A run -/

/-- A registry whose queue is numbered; calls are counted by a clock. -/
structure Numbered where
  roster : Roster
  numbers : List Nat
  clock : Nat

namespace Numbered

/-- Whatever waits in a registry was asked for before the run. -/
def of (r : Registry) : Numbered := ⟨⟨r, []⟩, List.range r.pending.length, r.pending.length⟩

variable (s : Numbered)

def registry : Registry := s.roster.registry

def step (c : Call) : Numbered where
  roster := s.roster.step c
  numbers := s.registry.queueAfter (fun _ _ => s.clock) s.numbers c
  clock := s.clock + 1

def run (calls : List Call) : Numbered := calls.foldl step s

/-- The queue with its numbers. -/
def waiting : List (Nat × TriggerId × Tag) := s.numbers.zip (s.registry.pending.map (·.asks))

/-- The answers of a call for the entry `n`. -/
def answersTo (n : Nat) : Call → List Admission
  | .drain answers ledger now =>
    (s.numbers.zip (s.registry.drained answers ledger now)).filterMap fun (m, o) =>
      if m = n then o else none
  | .add _ | .remove _ | .fire .. | .finish .. => []

/-- No call answers for the entry `n`. -/
def Silent (n : Nat) : Numbered → List Call → Prop
  | _, [] => True
  | s, c :: cs => s.answersTo n c = [] ∧ (s.step c).Silent n cs

/-- The trigger of the entry `n` is removed. No call answers for the entry, and the next drain takes
it off the queue, unless another trigger is registered under the id `id` first. -/
def Dropped (n : Nat) (id : TriggerId) : Numbered → List Call → Prop
  | _, [] => True
  | s, c :: cs => s.answersTo n c = [] ∧
    match c with
    | .drain .. => (s.step c).Silent n cs
    | .add _ => ¬s.roster.Registers id c → (s.step c).Dropped n id cs
    | .remove _ | .fire .. | .finish .. => (s.step c).Dropped n id cs

/-- The entry `n`, which asks for `x`, waits in the queue. Each drain has one answer for it, until
one is not that it is queued again, or until its trigger is removed; after that none has. -/
def Followed (n : Nat) (x : TriggerId × Tag) : Numbered → List Call → Prop
  | s, [] => (n, x) ∈ s.waiting
  | s, c :: cs => (n, x) ∈ s.waiting ∧
    match c with
    | .drain .. => ∃ a, s.answersTo n c = [a] ∧
        if a = .queued then (s.step c).Followed n x cs else (s.step c).Silent n cs
    | .remove id =>
        if id = x.1 then (s.step c).Dropped n id cs else (s.step c).Followed n x cs
    | .add _ | .fire .. | .finish .. => (s.step c).Followed n x cs

/-- The queue is numbered in the order in which its entries were asked for. -/
structure Ordered (s : Numbered) : Prop where
  length : s.numbers.length = s.registry.pending.length
  sorted : s.numbers.Pairwise (· < ·)
  issued : ∀ n ∈ s.numbers, n < s.clock

variable {s} {n : Nat} {x : TriggerId × Tag} {c : Call} {calls : List Call}

lemma Ordered.of (r : Registry) : (of r).Ordered where
  length := List.length_range
  sorted := List.pairwise_lt_range
  issued _ hn := List.mem_range.mp hn

lemma waiting_step (h : s.Ordered) (c : Call) : (s.step c).waiting =
    s.registry.queueAfter (fun id info => (s.clock, id, info)) s.waiting c := by
  have hlen : s.numbers.length = (s.registry.pending.map (·.asks)).length := by
    rw [h.length, List.length_map]
  have hasks : (s.step c).registry.pending.map (·.asks) = _ := asks_step s.roster c
  unfold waiting
  rw [hasks]
  exact zip_queueAfter hlen c

lemma Ordered.step (h : s.Ordered) (c : Call) : (s.step c).Ordered := by
  have hlen : s.numbers.length = (s.registry.pending.map (·.asks)).length := by
    rw [h.length, List.length_map]
  have hasks : (s.step c).registry.pending.map (·.asks) = _ := asks_step s.roster c
  obtain ⟨-, -, hsub⟩ := s.registry.queueAfter_sublist (fun _ _ => s.clock) s.numbers c
  refine ⟨?_, ?_, fun n hn => ?_⟩
  · have hpending := congrArg List.length hasks
    rw [List.length_map] at hpending
    exact (length_queueAfter hlen c).trans hpending.symm
  · refine List.Pairwise.sublist hsub (List.pairwise_append.mpr ⟨h.sorted, ?_, fun n hn m hm => ?_⟩)
    · exact List.pairwise_singleton _ _
    · exact List.mem_singleton.mp hm ▸ h.issued n hn
  · rcases List.mem_append.mp (hsub.subset hn) with hn | hn
    · exact Nat.lt_succ_of_lt (h.issued n hn)
    · exact List.mem_singleton.mp hn ▸ Nat.lt_succ_self _

lemma Ordered.run (h : s.Ordered) (calls : List Call) : (s.run calls).Ordered := by
  induction calls generalizing s with
  | nil => exact h
  | cons c cs ih => exact ih (h.step c)

/-! ### One entry -/

/-- The entry at some place of the queue. -/
lemma mem_waiting : (n, x) ∈ s.waiting ↔
    ∃ (k : Nat) (p : Pending), s.numbers[k]? = some n ∧ s.registry.pending[k]? = some p ∧
      p.asks = x := by
  rw [waiting, List.mem_iff_getElem?]
  simp [List.getElem?_zip_eq_some]

/-- An entry is answered once. -/
lemma filterMap_zip_of_nodup {ns : List Nat} (hnd : ns.Nodup) {os : List (Option β)}
    {o : Option β} {k : Nat} (hn : ns[k]? = some n) (ho : os[k]? = some o) :
    (ns.zip os).filterMap (fun (m, o) => if m = n then o else none) = o.toList := by
  induction ns generalizing os k with
  | nil => simp at hn
  | cons m ns ih =>
    obtain ⟨hm, hnd⟩ := List.nodup_cons.mp hnd
    cases os with
    | nil => simp at ho
    | cons o' os =>
      cases k with
      | zero =>
        obtain ⟨rfl, rfl⟩ : m = n ∧ o' = o := by simpa using And.intro hn ho
        have hrest : (ns.zip os).filterMap (fun (m', o) => if m' = m then o else none) = [] :=
          List.filterMap_eq_nil_iff.mpr fun ⟨m', o⟩ hmem => by
            have hne : m' ≠ m := fun heq => hm (heq ▸ (List.of_mem_zip hmem).1)
            simp [hne]
        cases o' <;> simp [hrest]
      | succ k =>
        have hn : ns[k]? = some n := by simpa using hn
        have hne : m ≠ n := fun heq => hm (heq ▸ List.mem_of_getElem? hn)
        simpa [hne] using ih hnd hn (by simpa using ho)

lemma Ordered.nodup (h : s.Ordered) : s.numbers.Nodup := h.sorted.imp Nat.ne_of_lt

lemma Ordered.place_unique (h : s.Ordered) {k k' : Nat} (hk : s.numbers[k]? = some n)
    (hk' : s.numbers[k']? = some n) : k = k' :=
  (List.getElem?_inj (List.getElem?_eq_some_iff.mp hk).1 h.nodup).mp (hk.trans hk'.symm)

/-- The entry `n` is not in the queue any more. -/
structure Over (s : Numbered) (n : Nat) : Prop where
  issued : n < s.clock
  gone : ∀ x, (n, x) ∉ s.waiting

lemma Over.step (h : s.Over n) (ho : s.Ordered) (c : Call) : (s.step c).Over n where
  issued := Nat.lt_succ_of_lt h.issued
  gone x hx := by
    rw [waiting_step ho] at hx
    obtain ⟨id, info, hsub⟩ := s.registry.queueAfter_sublist _ s.waiting c
    rcases List.mem_append.mp (hsub.subset hx) with hx | hx
    · exact h.gone x hx
    · obtain ⟨rfl, -⟩ := Prod.mk.inj (List.mem_singleton.mp hx)
      exact Nat.lt_irrefl _ h.issued

lemma Over.answersTo (h : s.Over n) (ho : s.Ordered) (c : Call) : s.answersTo n c = [] := by
  cases c with
  | add | remove | fire | finish => rfl
  | drain answers ledger now =>
    refine List.filterMap_eq_nil_iff.mpr fun ⟨m, o⟩ hmem => if_neg fun hm => ?_
    obtain ⟨k, hk⟩ := List.mem_iff_getElem?.mp hmem
    obtain ⟨hnum, -⟩ := List.getElem?_zip_eq_some.mp hk
    have hlt : k < s.registry.pending.length := ho.length ▸ (List.getElem?_eq_some_iff.mp hnum).1
    have hp : s.registry.pending[k]? = some s.registry.pending[k] := List.getElem?_eq_getElem hlt
    exact h.gone _ (mem_waiting.mpr ⟨k, _, hm ▸ hnum, hp, rfl⟩)

lemma Over.silent (h : s.Over n) (ho : s.Ordered) (calls : List Call) : s.Silent n calls := by
  induction calls generalizing s with
  | nil => trivial
  | cons c cs ih => exact ⟨h.answersTo ho c, ih (h.step ho c) (ho.step c)⟩

/-- A drain has one answer for an entry of a registered trigger, and the entry stays in the queue
just if that is the answer. -/
lemma exists_outcome (ho : s.Ordered) (hw : (n, x) ∈ s.waiting) (answers : Nat → Answers)
    (ledger : Ledger) (now : Nat) : ∃ o : Option Admission,
      (o = none ↔ s.registry.get? x.1 = none) ∧
      s.answersTo n (.drain answers ledger now) = o.toList ∧
      if o = some .queued then (n, x) ∈ (s.step (.drain answers ledger now)).waiting
      else (s.step (.drain answers ledger now)).Over n := by
  obtain ⟨k, p, hk, hp, rfl⟩ := mem_waiting.mp hw
  have hoffers := offers_drained s.registry answers ledger now
  obtain ⟨o, hout⟩ : ∃ o, (s.registry.drained answers ledger now)[k]? = some o :=
    ⟨_, List.getElem?_eq_getElem
      ((List.getElem?_eq_some_iff.mp hp).1.trans_eq hoffers.length.symm)⟩
  have hnone := hoffers.getElem?_eq_none hp
  refine ⟨o, ?_, filterMap_zip_of_nodup ho.nodup hk hout, ?_⟩
  · rw [hout, Option.some_inj] at hnone
    exact hnone
  · split_ifs with hqueued
    · rw [waiting_step ho]
      exact mem_requeued.mpr ⟨k, List.getElem?_zip_eq_some.mpr ⟨hk, by simp [hp]⟩, hqueued ▸ hout⟩
    · refine ⟨Nat.lt_succ_of_lt (ho.issued n (List.mem_of_getElem? hk)), fun y hy => hqueued ?_⟩
      rw [waiting_step ho] at hy
      obtain ⟨k', hk', hout'⟩ := mem_requeued.mp hy
      obtain rfl := ho.place_unique hk (List.getElem?_zip_eq_some.mp hk').1
      exact Option.some_inj.mp (hout.symm.trans hout')

/-- Nothing but a drain takes an entry off the queue. -/
lemma mem_waiting_step (ho : s.Ordered) (hw : (n, x) ∈ s.waiting)
    (hc : ∀ answers ledger now, c ≠ .drain answers ledger now) : (n, x) ∈ (s.step c).waiting := by
  rw [waiting_step ho]
  cases c with
  | add | remove | finish => exact hw
  | fire answers id info hint ledger now =>
    simp only [queueAfter]
    split
    · exact List.mem_append_left _ hw
    · exact hw
  | drain answers ledger now => exact absurd rfl (hc answers ledger now)

lemma dropped (ho : s.Ordered) (hw : (n, x) ∈ s.waiting) (hx : s.registry.get? x.1 = none)
    (calls : List Call) : s.Dropped n x.1 calls := by
  induction calls generalizing s with
  | nil => trivial
  | cons c cs ih =>
    have hstep (hc : ∀ answers ledger now, c ≠ .drain answers ledger now)
        (hnew : ¬s.roster.Registers x.1 c) : (s.step c).Dropped n x.1 cs :=
      ih (ho.step c) (mem_waiting_step ho hw hc) (Roster.get?_step_eq_none hx hnew)
    cases c with
    | add t => exact ⟨rfl, hstep nofun⟩
    | remove | fire | finish => exact ⟨rfl, hstep nofun id⟩
    | drain answers ledger now =>
      obtain ⟨o, hnone, hanswers, hover⟩ := exists_outcome ho hw answers ledger now
      obtain rfl := hnone.mpr hx
      exact ⟨hanswers, Over.silent hover (ho.step _) cs⟩

lemma followed (ho : s.Ordered) (hw : (n, x) ∈ s.waiting) (hx : (s.registry.get? x.1).isSome)
    (calls : List Call) : s.Followed n x calls := by
  induction calls generalizing s with
  | nil => exact hw
  | cons c cs ih =>
    have hstep (hc : ∀ answers ledger now, c ≠ .drain answers ledger now)
        (hkeep : c ≠ .remove x.1) : (s.step c).Followed n x cs :=
      ih (ho.step c) (mem_waiting_step ho hw hc) (Roster.isSome_get?_step hx hkeep)
    refine ⟨hw, ?_⟩
    cases c with
    | add | fire | finish => exact hstep nofun nofun
    | remove id =>
      dsimp only
      split_ifs with hid
      · subst hid
        have hw' : (n, x) ∈ (s.step (.remove x.1)).waiting := mem_waiting_step ho hw nofun
        exact dropped (ho.step _) hw' (Roster.get?_step_remove _ _) cs
      · exact hstep nofun fun heq => hid (Call.remove.inj heq)
    | drain answers ledger now =>
      obtain ⟨o, hnone, hanswers, hafter⟩ := exists_outcome ho hw answers ledger now
      cases o with
      | none => exact absurd (hnone.mp rfl) (Option.isSome_iff_ne_none.mp hx)
      | some a =>
        refine ⟨a, hanswers, ?_⟩
        simp only [Option.some_inj] at hafter
        split_ifs at hafter ⊢ with ha
        · exact ih (ho.step _) hafter (Roster.isSome_get?_step hx nofun)
        · exact hafter.silent (ho.step _) cs

end Numbered

/-- **Nothing that is queued is lost or answered twice.** A drain offers each entry of the queue
once, in turn, with what it was queued with, in the registry that those before it have left; what
the last of them leaves is what the drain leaves. Its answers are those for the entries whose
triggers are still registered; the entries that it answers to be queued again are the queue
afterwards. So whatever the host does afterwards, input that is answered to be queued is answered
once by each drain, until it is not queued again or until its trigger is removed. -/
theorem drain_answers_each (r : Registry) :
    (∀ answers ledger now,
      let os := r.drained answers ledger now
      let (as, r', ledger') := r.drainUnder answers ledger now
      Offers now answers r.pending { r with pending := [] } ledger os r' ledger' ∧
      os.length = r.pending.length ∧
      (∀ (k : Nat) (p : Pending), r.pending[k]? = some p →
        (os[k]? = some none ↔ r.get? p.id = none)) ∧
      as = os.reduceOption ∧
      r'.pending.map (·.asks) = requeued (r.pending.map (·.asks)) os) ∧
    ∀ before answers id info hint ledger now r' ledger',
      let s := (Numbered.of r).run before
      s.registry.fireUnder answers id info hint ledger now = .ok (.queued, r', ledger') →
        ∀ after, (s.step (.fire answers id info hint ledger now)).Followed s.clock (id, info)
          after := by
  constructor
  · intro answers ledger now
    have hoffers := offers_drained r answers ledger now
    exact ⟨hoffers, hoffers.length, fun _ _ hp => hoffers.getElem?_eq_none hp,
      reduceOption_outcomes.symm, hoffers.asks⟩
  · intro before answers id info hint ledger now r' ledger' s hr after
    have ho : s.Ordered := (Numbered.Ordered.of r).run before
    refine Numbered.followed (ho.step _) ?_ ?_ after
    · rw [Numbered.waiting_step ho]
      simp [queueAfter, hr]
    · exact Roster.isSome_get?_step (isSome_of_fireUnder hr) nofun

/-- An entry is queued once more while a thread runs, and launched when the thread has ended. -/
theorem drain_answers_each_of_wait :
    let fire (id : TriggerId) : Call := .fire (fun _ _ => true) id 0 none .empty 0
    let drain : Call := .drain (fun _ _ _ => true) .empty 0
    let finish : Call := .finish 0 0 .empty 0
    let before : List Call := [.add ⟨"a", .hotkey, [{}]⟩, .add ⟨"b", .hotkey, [{}]⟩, fire 0]
    let s := (Numbered.of (new 1 1)).run before
    let s' := s.step (fire 1)
    s'.waiting = [(3, 1, 0)] ∧ s'.Followed 3 (1, 0) [drain, finish, drain, drain] ∧
      s'.answersTo 3 drain = [.queued] ∧
        ((s'.step drain).step finish).answersTo 3 drain = [.launched 1 0] := by
  intro fire drain finish before s s'
  refine ⟨by decide, ?_, by decide, by decide⟩
  have ha : (s.registry.fireUnder (fun _ _ => true) 1 0 none .empty 0).toOption.map (·.1) =
      some .queued := by decide
  obtain ⟨r, ledger, hr⟩ := exists_of_answer ha
  exact (drain_answers_each (new 1 1)).2 _ _ 1 0 none .empty 0 r ledger hr _

end Registry

end KeySynth
