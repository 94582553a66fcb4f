import Mathlib.Data.Finset.Card
import Mathlib.Data.List.Induction
import Mathlib.Tactic.Common
import KeySynth.Ledger.LayoutCache

/-!
What the cache of layouts remembers.

The cache is told from the lookups that were made (`Remembers`): it holds the layouts that came up
first, as many as there is room for, each with what its first probe said. Hence a probe runs only
for a layout that is new or came up too late, and a probe that always says the same of a layout
might as well run every time.
-/

namespace KeySynth.LayoutCache

/-- A layout that is looked up, and what a probe would say of each layout then. -/
structure Lookup where
  layout : LayoutId
  probe : LayoutId → Bool

def serve (c : LayoutCache) (q : Lookup) : LayoutCache := (c.hasAltGr q.layout q.probe).2

/-- A new cache after some lookups. -/
def after (qs : List Lookup) : LayoutCache := qs.foldl serve empty

/-- The layouts that were looked up, each once, in the order in which they came up. -/
def seen (qs : List Lookup) : List LayoutId := (qs.map (·.layout)).eraseDups

/-- The first probe of the layout says `b` of it. -/
def Told (qs : List Lookup) (layout : LayoutId) (b : Bool) : Prop :=
  ∃ us q vs, qs = us ++ q :: vs ∧ q.layout = layout ∧ layout ∉ seen us ∧ q.probe layout = b

/-- A lookup between others is of a layout that came up too late to be kept, or comes up now. -/
def Unknown (us : List Lookup) (q : Lookup) (vs : List Lookup) : Prop :=
  q.layout ∉ (seen (us ++ q :: vs)).take capacity ∨ q.layout ∉ seen us

instance (us : List Lookup) (q : Lookup) (vs : List Lookup) : Decidable (Unknown us q vs) :=
  inferInstanceAs (Decidable (_ ∨ _))

/-- A lookup with a probe that may do more than answer. -/
def hasAltGrM {m : Type → Type} [Monad m] (c : LayoutCache) (layout : LayoutId)
    (probe : LayoutId → m Bool) : m (Bool × LayoutCache) :=
  match c.get? layout with
  | some b => pure (b, c)
  | none => do
    let b ← probe layout
    return (b, if c.size < capacity then ⟨c.entries ++ [(layout, b)]⟩ else c)

/-- The probe of a lookup, which notes the layout that it runs for. -/
def Lookup.noting (q : Lookup) (layout : LayoutId) : StateM (List LayoutId) Bool := do
  modify (· ++ [layout])
  return q.probe layout

variable {c : LayoutCache} {qs us vs : List Lookup} {q : Lookup} {layout : LayoutId} {b : Bool}

/-! ### The layouts that were looked up -/

lemma mem_seen : layout ∈ seen qs ↔ layout ∈ qs.map (·.layout) := List.mem_eraseDups

lemma seen_append : seen (us ++ vs) =
    seen us ++ ((vs.map (·.layout)).removeAll (us.map (·.layout))).eraseDups := by
  rw [seen, List.map_append, List.eraseDups_append]
  rfl

lemma seen_snoc_of_mem (h : q.layout ∈ seen qs) : seen (qs ++ [q]) = seen qs := by
  have h : ∃ p ∈ qs, p.layout = q.layout := by simpa [mem_seen] using h
  rw [seen_append]
  simp [List.removeAll, h]

lemma seen_snoc_of_not_mem (h : q.layout ∉ seen qs) : seen (qs ++ [q]) = seen qs ++ [q.layout] := by
  have h : ¬∃ p ∈ qs, p.layout = q.layout := by simpa [mem_seen] using h
  rw [seen_append]
  simp [List.removeAll, List.eraseDups_cons, h]

lemma nodup_seen : (seen qs).Nodup := by
  induction qs using List.reverseRecOn with
  | nil => exact List.nodup_nil
  | append_singleton qs q ih =>
    by_cases h : q.layout ∈ seen qs
    · rwa [seen_snoc_of_mem h]
    · have hdisjoint : List.Disjoint (seen qs) [q.layout] := by simpa using h
      rw [seen_snoc_of_not_mem h]
      exact ih.append (List.nodup_singleton _) hdisjoint

lemma length_seen : (seen qs).length = (qs.map (·.layout)).toFinset.card := by
  rw [← List.toFinset_card_of_nodup nodup_seen]
  congr 1
  ext l
  simp only [List.mem_toFinset, mem_seen]

/-- A layout that has come up does not change its place among those that came up first. -/
lemma mem_take_seen_append (n : Nat) (h : layout ∈ seen us) :
    layout ∈ (seen (us ++ vs)).take n ↔ layout ∈ (seen us).take n := by
  have hnodup : (seen (us ++ vs)).Nodup := nodup_seen
  rw [seen_append] at hnodup ⊢
  rw [List.take_append, List.mem_append, or_iff_left]
  exact fun hlate => List.disjoint_of_nodup_append hnodup h (List.mem_of_mem_take hlate)

lemma unknown_iff : Unknown us q vs ↔ q.layout ∉ (seen us).take capacity := by
  by_cases h : q.layout ∈ seen us
  · simp only [Unknown, mem_take_seen_append capacity h, h, not_true, or_false]
  · exact iff_of_true (.inr h) fun hmem => h (List.mem_of_mem_take hmem)

lemma Told.append (h : Told us layout b) (vs : List Lookup) : Told (us ++ vs) layout b := by
  obtain ⟨ws, q, ws', rfl, hq, hws, hb⟩ := h
  exact ⟨ws, q, ws' ++ vs, by simp, hq, hws, hb⟩

/-- The lookup that a layout comes up with is its first. -/
lemma told_snoc (h : q.layout ∉ seen qs) : Told (qs ++ [q]) q.layout (q.probe q.layout) :=
  ⟨qs, q, [], rfl, rfl, h, rfl⟩

/-! ### One lookup -/

lemma hasAltGr_of_some (h : c.get? layout = some b) (probe : LayoutId → Bool) :
    c.hasAltGr layout probe = (b, c) := by
  simp only [hasAltGr, h]

lemma hasAltGr_of_none (h : c.get? layout = none) (probe : LayoutId → Bool) :
    c.hasAltGr layout probe = (probe layout,
      if c.size < capacity then ⟨c.entries ++ [(layout, probe layout)]⟩ else c) := by
  simp only [hasAltGr, h]

lemma mem_entries_of_get? (h : c.get? layout = some b) : (layout, b) ∈ c.entries := by
  obtain ⟨before, behind, hsplit, -⟩ := List.lookup_eq_some_iff.mp h
  simp [hsplit]

/-- A lookup keeps what the cache holds, and adds at most what its probe said. -/
lemma mem_entries_hasAltGr {p : LayoutId × Bool} {probe : LayoutId → Bool}
    (h : p ∈ (c.hasAltGr layout probe).2.entries) :
    p ∈ c.entries ∨ p = (layout, probe layout) := by
  cases hget : c.get? layout with
  | some b =>
    rw [hasAltGr_of_some hget] at h
    exact .inl h
  | none =>
    rw [hasAltGr_of_none hget] at h
    dsimp only at h
    split_ifs at h
    · simpa using h
    · exact .inl h

lemma run_hasAltGrM (c : LayoutCache) (q : Lookup) (log : List LayoutId) :
    (c.hasAltGrM q.layout q.noting).run log =
      (c.hasAltGr q.layout q.probe,
        if c.get? q.layout = none then log ++ [q.layout] else log) := by
  cases h : c.get? q.layout with
  | some b =>
    rw [hasAltGr_of_some h]
    simp only [hasAltGrM, h]
    rfl
  | none =>
    rw [hasAltGr_of_none h]
    simp only [hasAltGrM, h]
    rfl

/-- The cache holds the layouts that came up first, with what their first probes said. -/
structure Remembers (c : LayoutCache) (qs : List Lookup) : Prop where
  layouts : c.entries.map Prod.fst = (seen qs).take capacity
  answers : ∀ p ∈ c.entries, Told qs p.1 p.2

namespace Remembers

variable (h : c.Remembers qs)
include h

lemma size_eq : c.size = min capacity (seen qs).length := by
  rw [size, ← List.length_map (f := Prod.fst), h.layouts, List.length_take]

lemma get?_eq_none : c.get? layout = none ↔ layout ∉ (seen qs).take capacity := by
  rw [← h.layouts, get?, List.lookup_eq_none_iff, List.mem_map, not_exists]
  simp only [not_and]
  exact forall₂_congr fun p _ => by simp [@eq_comm _ layout]

lemma told (hb : c.get? layout = some b) : Told qs layout b :=
  h.answers (layout, b) (mem_entries_of_get? hb)

lemma known (hb : c.get? q.layout = some b) : c.Remembers (qs ++ [q]) where
  layouts := by
    have hseen : q.layout ∈ seen qs := by
      by_contra hno
      have hnone := h.get?_eq_none.mpr fun hmem => hno (List.mem_of_mem_take hmem)
      cases hb.symm.trans hnone
    rw [seen_snoc_of_mem hseen, h.layouts]
  answers p hp := (h.answers p hp).append [q]

/-- A full cache stays as it is. -/
lemma full (hfull : capacity ≤ c.size) : c.Remembers (qs ++ [q]) where
  layouts := by
    have hsize := h.size_eq
    rw [seen_append, List.take_append_of_le_length (by omega), h.layouts]
  answers p hp := (h.answers p hp).append [q]

/-- A layout that comes up while there is room is kept. -/
lemma kept (hnone : c.get? q.layout = none) (hroom : c.size < capacity) :
    Remembers ⟨c.entries ++ [(q.layout, q.probe q.layout)]⟩ (qs ++ [q]) := by
  have hsize := h.size_eq
  have hall : (seen qs).take capacity = seen qs := List.take_of_length_le (by omega)
  have hnew : q.layout ∉ seen qs := hall ▸ h.get?_eq_none.mp hnone
  refine ⟨?_, fun p hp => ?_⟩
  · rw [seen_snoc_of_not_mem hnew, List.take_of_length_le (by simp; omega), List.map_append,
      h.layouts, hall]
    rfl
  · rcases List.mem_append.mp hp with hp | hp
    · exact (h.answers p hp).append [q]
    · obtain rfl := List.mem_singleton.mp hp
      exact told_snoc hnew

lemma serve (q : Lookup) : (c.serve q).Remembers (qs ++ [q]) := by
  unfold LayoutCache.serve
  cases hget : c.get? q.layout with
  | some b =>
    rw [hasAltGr_of_some hget]
    exact h.known hget
  | none =>
    rw [hasAltGr_of_none hget]
    split_ifs with hroom
    · exact h.kept hget hroom
    · exact h.full (Nat.le_of_not_lt hroom)

end Remembers

/-! ### All lookups -/

lemma remembers_after : (after qs).Remembers qs := by
  induction qs using List.reverseRecOn with
  | nil => exact ⟨rfl, by simp [after, empty]⟩
  | append_singleton qs q ih =>
    have hlast : after (qs ++ [q]) = (after qs).serve q := List.foldl_append ..
    rw [hlast]
    exact ih.serve q

/-- **The cache is a sound memo of bounded size.** It holds no layout twice, as many as have come up
but at most its capacity, and it never loses one. A lookup runs its probe, once and for the layout
asked about, exactly if that layout comes up for the first time or is none of those that came up
first; it answers what the probe says. Otherwise it answers what the first probe said. So if all
probes say the same of a layout, every lookup answers what its own probe would say. -/
theorem bounded_memo (us : List Lookup) (q : Lookup) (vs : List Lookup) :
    let c := after us
    let answer := (c.hasAltGr q.layout q.probe).1
    (c.entries.map Prod.fst).Nodup ∧
    c.size = min capacity (us.map (·.layout)).toFinset.card ∧
    c.size ≤ (after (us ++ vs)).size ∧
    (∀ log, (c.hasAltGrM q.layout q.noting).run log =
      (c.hasAltGr q.layout q.probe, if Unknown us q vs then log ++ [q.layout] else log)) ∧
    (Unknown us q vs → answer = q.probe q.layout) ∧
    (¬Unknown us q vs → Told us q.layout answer) ∧
    ∀ probe : LayoutId → Bool, (∀ p ∈ us ++ [q], p.probe p.layout = probe p.layout) →
      answer = probe q.layout := by
  intro c answer
  have h : c.Remembers us := remembers_after
  have hunknown : Unknown us q vs ↔ c.get? q.layout = none := by
    rw [unknown_iff, h.get?_eq_none]
  have hprobed (hnone : c.get? q.layout = none) : answer = q.probe q.layout :=
    congrArg Prod.fst (hasAltGr_of_none hnone q.probe)
  have htold {b : Bool} (hb : c.get? q.layout = some b) : Told us q.layout answer := by
    have hanswer : answer = b := congrArg Prod.fst (hasAltGr_of_some hb q.probe)
    exact hanswer ▸ h.told hb
  refine ⟨?_, length_seen ▸ h.size_eq, ?_, fun log => ?_, fun hnew => hprobed (hunknown.mp hnew),
    fun hold => ?_, fun probe hprobe => ?_⟩
  · rw [h.layouts]
    exact nodup_seen.sublist (List.take_sublist ..)
  · have hlater : (after (us ++ vs)).Remembers (us ++ vs) := remembers_after
    have hle : (seen us).length ≤ (seen (us ++ vs)).length := by
      rw [seen_append, List.length_append]
      exact Nat.le_add_right ..
    rw [h.size_eq, hlater.size_eq]
    omega
  · rw [run_hasAltGrM]
    simp only [hunknown]
  · obtain ⟨b, hb⟩ := Option.ne_none_iff_exists'.mp (mt hunknown.mpr hold)
    exact htold hb
  · cases hget : c.get? q.layout with
    | none => exact (hprobed hget).trans (hprobe q (by simp))
    | some b =>
      obtain ⟨ws, p, ws', rfl, hp, -, hsays⟩ := htold hget
      rw [← hsays, ← hp]
      exact hprobe p (by simp)

end KeySynth.LayoutCache
