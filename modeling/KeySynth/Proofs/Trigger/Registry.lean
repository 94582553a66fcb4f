import Mathlib
import KeySynth.Trigger.Registry

/-!
The registry's triggers under the changes that its operations make, and how many of their threads
run at a priority.
-/

namespace KeySynth

/-- The running threads of a variant, if it is of the priority `p`. -/
def Variant.runningAt (p : Int) (v : Variant) : Nat := if v.priority = p then v.running else 0

namespace Trigger

def runningAt (p : Int) (t : Trigger) : Nat := (t.variants.map (·.runningAt p)).sum

/-- The running threads of variant `i`. -/
def runningOf (t : Trigger) (i : Nat) : Nat := t.variants[i]?.elim 0 (·.running)

/-- The trigger with one variant changed. -/
def modify (t : Trigger) (i : Nat) (f : Variant → Variant) : Trigger :=
  { t with variants := t.variants.modify i f }

variable {t : Trigger} {i : Nat} {v : Variant} {f : Variant → Variant}

lemma sum_map_modify (g : Variant → Nat) :
    ∀ {vs : List Variant} {i : Nat}, vs[i]? = some v →
      ((vs.modify i f).map g).sum + g v = (vs.map g).sum + g (f v)
  | [], _, h => by simp at h
  | a :: vs, 0, h => by
    obtain rfl : a = v := by simpa using h
    simp only [List.modify_zero_cons, List.map_cons, List.sum_cons]
    omega
  | a :: vs, i + 1, h => by
    have hvs : vs[i]? = some v := by simpa using h
    have ih := sum_map_modify g hvs
    simp only [List.modify_succ_cons, List.map_cons, List.sum_cons]
    omega

lemma runningAt_modify (p : Int) (h : t.variants[i]? = some v) :
    (t.modify i f).runningAt p + v.runningAt p = t.runningAt p + (f v).runningAt p :=
  sum_map_modify _ h

lemma runningOf_of_some (h : t.variants[i]? = some v) : t.runningOf i = v.running := by
  rw [runningOf, h]
  rfl

lemma runningOf_modify (h : t.variants[i]? = some v) (j : Nat) :
    (t.modify i f).runningOf j = if j = i then (f v).running else t.runningOf j := by
  unfold runningOf modify
  rw [List.getElem?_modify]
  by_cases hj : j = i
  · subst hj
    simp [h]
  · simp [hj, Ne.symm hj]

end Trigger

namespace Registry

variable {r : Registry} {id : TriggerId} {i : Nat} {t : Trigger} {v : Variant}
  {f g : Variant → Variant}

/-- The running threads of the registered variants of the priority `p`. -/
def runningAt (r : Registry) (p : Int) : Nat := (r.triggers.map (·.2.runningAt p)).sum

/-- Each id is registered once. -/
def Keyed (r : Registry) : Prop := (r.triggers.map Prod.fst).Nodup

lemma mem_of_get? (h : r.get? id = some t) : (id, t) ∈ r.triggers := by
  obtain ⟨before, after, hsplit, -⟩ := List.lookup_eq_some_iff.mp h
  rw [hsplit]
  simp

lemma ne_of_get?_none (h : r.get? id = none) : ∀ p ∈ r.triggers, p.1 ≠ id := fun p hp heq => by
  have hne := List.lookup_eq_none_iff.mp h p hp
  simp [heq] at hne

lemma Keyed.eq_of_mem (h : r.Keyed) {t' : Trigger} (ht : (id, t) ∈ r.triggers)
    (ht' : (id, t') ∈ r.triggers) : t = t' :=
  congrArg Prod.snd (List.inj_on_of_nodup_map h ht ht' rfl)

/-! ### One changed variant -/

@[simp] lemma running_modifyVariant : (r.modifyVariant id i f).running = r.running := rfl

lemma triggers_modifyVariant :
    (r.modifyVariant id i f).triggers =
      r.triggers.map fun p => (p.1, if p.1 = id then p.2.modify i f else p.2) := by
  unfold modifyVariant
  refine List.map_congr_left fun p _ => ?_
  by_cases h : p.1 = id <;> simp [h, Trigger.modify]

lemma modifyVariant_modifyVariant :
    (r.modifyVariant id i f).modifyVariant id i g = r.modifyVariant id i (g ∘ f) := by
  unfold modifyVariant
  simp only [List.map_map, Registry.mk.injEq, and_self, and_true]
  refine List.map_congr_left fun p _ => ?_
  by_cases h : p.1 = id <;> simp [h, List.modify_modify_eq]

lemma mem_modifyVariant (hr : r.Keyed) (ht : (id, t) ∈ r.triggers) {p : TriggerId × Trigger}
    (hp : p ∈ (r.modifyVariant id i f).triggers) :
    p = (id, t.modify i f) ∨ p.1 ≠ id ∧ p ∈ r.triggers := by
  rw [triggers_modifyVariant, List.mem_map] at hp
  obtain ⟨⟨k, u⟩, hq, rfl⟩ := hp
  by_cases hk : k = id
  · subst hk
    obtain rfl := hr.eq_of_mem ht hq
    exact .inl (by simp)
  · exact .inr (by simpa [hk] using hq)

lemma Keyed.modifyVariant (h : r.Keyed) : (r.modifyVariant id i f).Keyed := by
  rw [Keyed, triggers_modifyVariant, List.map_map]
  exact h

lemma sum_map_update (g : Trigger → Nat) (f : Trigger → Trigger) :
    ∀ {ps : List (TriggerId × Trigger)}, (ps.map Prod.fst).Nodup → (id, t) ∈ ps →
      (ps.map fun p => g (if p.1 = id then f p.2 else p.2)).sum + g t =
        (ps.map (g ·.2)).sum + g (f t)
  | [], _, h => by simp at h
  | (k, u) :: ps, hn, h => by
    rw [List.map_cons, List.nodup_cons] at hn
    simp only [List.map_cons, List.sum_cons]
    rcases List.mem_cons.mp h with h | h
    · -- no other entry has this id
      obtain ⟨rfl, rfl⟩ := Prod.mk.inj h
      have hrest : (ps.map fun p => g (if p.1 = id then f p.2 else p.2)) = ps.map (g ·.2) := by
        refine List.map_congr_left fun p hp => ?_
        have hp : p.1 ≠ id := fun hk => hn.1 (hk ▸ List.mem_map.mpr ⟨p, hp, rfl⟩)
        rw [if_neg hp]
      rw [hrest, if_pos rfl]
      omega
    · have hk : k ≠ id := fun hk => hn.1 (hk ▸ List.mem_map.mpr ⟨_, h, rfl⟩)
      have ih := sum_map_update g f hn.2 h
      rw [if_neg hk]
      omega

lemma runningAt_modifyVariant (hr : r.Keyed) (ht : (id, t) ∈ r.triggers)
    (hv : t.variants[i]? = some v) (p : Int) :
    (r.modifyVariant id i f).runningAt p + v.runningAt p =
      r.runningAt p + (f v).runningAt p := by
  have hsum := sum_map_update (·.runningAt p) (·.modify i f) hr ht
  have hone : (t.modify i f).runningAt p + v.runningAt p = t.runningAt p + (f v).runningAt p :=
    Trigger.runningAt_modify p hv
  have hmap : (r.modifyVariant id i f).runningAt p =
      (r.triggers.map fun q => (if q.1 = id then q.2.modify i f else q.2).runningAt p).sum := by
    rw [runningAt, triggers_modifyVariant, List.map_map]
    rfl
  rw [hmap]
  unfold runningAt
  omega

/-! ### The gates and the stack of priorities -/

lemma gate_of_launch (h : r.gate v = .launch) :
    r.running.length < r.maxThreads ∧ v.running < v.maxThreads.getD r.maxThreadsPerTrigger := by
  unfold gate at h
  split_ifs at h with hall hown
  exact ⟨Nat.lt_of_not_le hall, Nat.lt_of_not_le hown⟩

/-- A variant that may run is not outranked by the latest thread. -/
lemma gate_top (h : r.gate v = .launch) : ∀ q, r.running.getLast? = some q → q ≤ v.priority := by
  unfold gate at h
  split_ifs at h with hall hown htop
  intro q hq
  rw [hq, Option.any_some, decide_eq_true_iff] at htop
  exact Int.not_lt.mp htop

lemma gate_of_runAgain (h : r.gate v = .runAgain) :
    v.maxThreads.getD r.maxThreadsPerTrigger ≤ v.running := by
  unfold gate at h
  split_ifs at h with hall hown
  exact hown

lemma count_eraseLast (p q : Int) (ps : List Int) :
    (eraseLast p ps).count q = ps.count q - if p = q then 1 else 0 := by
  unfold eraseLast
  rw [List.count_reverse, List.count_erase, List.count_reverse]
  simp

lemma eraseLast_sublist (p : Int) (ps : List Int) : (eraseLast p ps).Sublist ps := by
  have hrev := (List.erase_sublist (a := p) (l := ps.reverse)).reverse
  rwa [List.reverse_reverse] at hrev

lemma length_eraseLast {p : Int} {ps : List Int} (h : p ∈ ps) :
    (eraseLast p ps).length = ps.length - 1 := by
  unfold eraseLast
  rw [List.length_reverse, List.length_erase_of_mem (List.mem_reverse.mpr h), List.length_reverse]

end Registry

end KeySynth
