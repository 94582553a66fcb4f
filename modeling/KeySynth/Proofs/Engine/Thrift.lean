import KeySynth.Proofs.Engine.Signed
import KeySynth.Proofs.Modifier.Thrift

/-!
What bringing the modifiers to a set sends: on a layout without AltGr nothing but the keys of the
modifiers that change, and taps of the mask key.
-/

namespace KeySynth

lemma Modifier.scan_ne_zero (m : Modifier) : m.scan ≠ 0 := by cases m <;> decide

/-- The event in which the key of `m` goes down or up. -/
def Modifier.event (m : Modifier) (up : Bool) (tag : Tag) : EventRecord :=
  .key ⟨m.key, m.scan, up, m.scan.isExtended, false, tag⟩

namespace Run

variable {P : Type} [Platform P] {r s : Run P} {C : Modifier → Prop}

lemma emitModifier_eq (r : Run P) (m : Modifier) (up : Bool) :
    r.emitModifier m up = r.emit (m.event up r.tag) := by
  simp [emitModifier, emitKey, Modifier.event, m.scan_ne_zero]

/-- Since `r` nothing has been sent but taps of the mask key and keys of modifiers with `C`. -/
structure Confines (C : Modifier → Prop) (r s : Run P) : Prop where
  still : s.still = r.still
  sent : ∃ news, s.sent = r.sent ++ news ∧ ∀ e ∈ news,
    (∃ up, e.Disguises r.backend r.maskKey up) ∨
      ∃ m up, C m ∧ e = (m.event up r.tag).carried r.backend

namespace Confines

omit [Platform P] in
lemma refl (r : Run P) : Confines C r r := ⟨rfl, [], by simp, nofun⟩

variable (h : Confines C r s)
include h

omit [Platform P] in
lemma snoc {t : Run P} {e : EventRecord} (hstill : t.still = s.still)
    (hsent : t.sent = s.sent ++ [e])
    (he : (∃ up, e.Disguises r.backend r.maskKey up) ∨
      ∃ m up, C m ∧ e = (m.event up r.tag).carried r.backend) : Confines C r t := by
  obtain ⟨news, hnews, hall⟩ := h.sent
  refine ⟨hstill.trans h.still, news ++ [e], by rw [hsent, hnews, List.append_assoc], ?_⟩
  intro e' he'
  rcases List.mem_append.mp he' with he' | he'
  · exact hall e' he'
  · obtain rfl := List.mem_singleton.mp he'
    exact he

lemma emitModifier {m : Modifier} (hm : C m) (up : Bool) : Confines C r (s.emitModifier m up) := by
  refine h.snoc (s.still_emitKey ..) ?_ (.inr ⟨m, up, hm, rfl⟩)
  rw [emitModifier_eq, sent_emit, still_tag h.still, still_backend h.still]

lemma emitMask (up : Bool) :
    Confines C r (s.emitKey s.maskKey.1 s.maskKey.2 up .ignore) := by
  obtain ⟨e, he, hsent⟩ := s.exists_disguises up
  rw [still_backend h.still, still_maskKey h.still] at he
  exact h.snoc (s.still_emitKey ..) hsent (.inl ⟨up, he⟩)

lemma pressPause : Confines C r s.pressPause := by
  obtain ⟨news, hnews, hall⟩ := h.sent
  exact ⟨(s.still_pause _).trans h.still, news, (s.sent_pause _).trans hnews, hall⟩

end Confines

/-- Bringing the modifiers anywhere sends no more than its plan moves. -/
lemma confines_reconcile (r : Run P) {desired : Mask} {w : Disguise}
    (hmoves : ∀ st ∈ (Plan.make desired r.ledger.logical r.altgr w).steps, ∀ m, st.Moves m → C m) :
    Confines C r (r.reconcile desired w) :=
  r.reconcile_of_moves hmoves (fun _ _ up hm hs => hs.emitModifier hm up)
    (fun _ _ hs => (hs.emitMask false).emitMask true)
    (fun _ _ hm _ hs => ((hs.emitMask false).emitModifier hm false).emitMask true)
    (fun _ hs => hs.pressPause) (.refl r)

end Run

/-- **Reconciling is frugal**: a plan gets there in as few steps as there are, and on a layout
without AltGr nothing is sent for a modifier that does not change, but for taps of the mask key. -/
theorem Run.frugal_reconcile :
    (∀ (wanted known : Mask) (altgr : Bool) (w : Disguise),
      Plan.Frugal altgr known wanted (Plan.make wanted known altgr w)) ∧
    ∀ {P : Type} [Platform P] (r : Run P) (desired : Mask) (w : Disguise), r.altgr = false →
      ∃ news, (r.reconcile desired w).sent = r.sent ++ news ∧ ∀ e ∈ news,
        (∃ up, e.Disguises r.backend r.maskKey up) ∨
          ∃ m up, (m ∈ r.ledger.logical ↔ m ∉ desired) ∧
            e = (m.event up r.tag).carried r.backend := by
  refine ⟨Plan.frugal_make, fun r desired w haltgr => (r.confines_reconcile ?_).sent⟩
  rw [haltgr]
  exact fun st hst m hm => Plan.changes_of_moves hst hm

/-- Shift stays down while Win goes up, so nothing is sent for Shift. -/
theorem Run.frugal_reconcile_of_shift :
    let r := ((Engine.new Desktop.new {}).start .event .notRaw none).reconcile
      ({.lshift} ∪ {.lwin}) .both
    r.altgr = false ∧ Modifier.lshift ∈ r.ledger.logical ∧
      ∃ news, (r.reconcile {.lshift} .both).sent = r.sent ++ news ∧ ∀ e ∈ news,
        (∃ up, e.Disguises r.backend r.maskKey up) ∨
          ∃ up, e = (Modifier.lwin.event up r.tag).carried r.backend := by
  intro r
  have haltgr : r.altgr = false := by decide +kernel
  have hlogical : r.ledger.logical = {.lshift} ∪ {.lwin} := by decide +kernel
  obtain ⟨news, hsent, hnews⟩ := Run.frugal_reconcile.2 r {.lshift} .both haltgr
  refine ⟨haltgr, by rw [hlogical]; decide, news, hsent, fun e he => (hnews e he).imp_right ?_⟩
  rintro ⟨m, up, hm, rfl⟩
  have hwin : m = .lwin := by
    rw [hlogical] at hm
    revert hm
    cases m <;> decide
  exact ⟨up, hwin ▸ rfl⟩

end KeySynth
