import KeySynth.Proofs.Engine.AllOrNothing
import KeySynth.Proofs.Engine.Route

/-!
A click that fails.

All that can go wrong in a click is a wheel that is to turn too far. By then the click's move is
in the batch, and the batch is sent nevertheless: a failed click is its move, and nothing else.
-/

namespace KeySynth

namespace Run

variable {P : Type} [Platform P] (r : Run P) {spec : ClickSpec} {f : Fault}

/-- Makes the move that a click begins with. -/
def approach (spec : ClickSpec) : Run P :=
  match spec.move? with
  | some m => r.moveMouse m.x m.y m.speed m.relative
  | none => r

/-- Everything but the move is done where the move has led. -/
lemma click_approach (spec : ClickSpec) : r.click spec =
    let s := r.approach spec
    if spec.count = 0 then s
    else if spec.button.isWheel then s.turnWheel spec.button spec.count
    else s.clickButton (s.physicalButton spec.button) spec.count spec.action := by
  unfold click approach ClickSpec.move?
  cases spec.x <;> cases spec.y <;> rfl

lemma click_of_fault (h : spec.fault? = some f) : r.click spec = (r.approach spec).fail f := by
  unfold ClickSpec.fault? at h
  split_ifs at h with hc
  obtain ⟨h0, hw, ht⟩ := hc
  cases h
  unfold click approach ClickSpec.move?
  cases spec.x <;> cases spec.y <;> simp [h0, hw, turnWheel, ht]

lemma fault_click (spec : ClickSpec) : (r.click spec).fault = spec.fault?.or r.fault := by
  obtain ⟨s, hs, he⟩ := r.click_eq (K := fun _ _ _ => True) spec
  have hf : s.fault = r.fault := congrArg (·.fault) hs.still
  rw [he, ← hf]

lemma fault_flush : r.flush.fault = r.fault := by
  obtain ⟨p, l, b, h⟩ := r.flush_eq
  rw [h]

/-- Sending the batch does not look at the fault. -/
lemma flush_fail (f : Fault) : (r.fail f).flush = r.flush.fail f := by
  unfold flush
  cases hb : r.batch with
  | none => simp [fail, hb]
  | some b =>
    simp only [fail, hb]
    split_ifs
    · rfl
    · rfl
    · split <;> rfl
    · split
      · split_ifs <;> rfl
      · rfl

end Run

namespace Engine

variable {P : Type} [Platform P] {e : Engine P} {spec : ClickSpec} {f : Fault}

variable (e) in
/-- A click goes wrong when its wheel does. -/
lemma fault_clickRun (spec : ClickSpec) : (e.clickRun spec).fault = spec.fault? := by
  rw [clickRun, Run.fault_flush, Run.fault_click]
  exact Option.or_none

/-- On every platform a failed click is told by its wheel, and comes to its move alone. -/
lemma click_eq_error (h : (e.click spec).1 = .error f) :
    f = .invalidValue .count (toString spec.count) ∧
      (e.click spec).2 = (e.startMouse.approach spec).flush.toEngine := by
  have hf : spec.fault? = some f := by
    have hout : (e.clickRun spec).outcome.1 = .error f := h
    rwa [Run.outcome_eq_error, fault_clickRun] at hout
  refine ⟨?_, ?_⟩
  · unfold ClickSpec.fault? at hf
    split_ifs at hf
    exact (Option.some_inj.mp hf).symm
  · change (e.clickRun spec).toEngine = _
    rw [clickRun, Run.click_of_fault _ hf, Run.flush_fail]
    rfl

end Engine

namespace Engine

variable {e : Engine Desktop}

/-- What a batch of mouse events does to a desktop. -/
lemma platform_flush_mouse (hbatch : e.startMouse.backend.isBatch = true) {s : Run Desktop}
    {es : List EventRecord} (hes : e.startMouse.Emits es s) :
    s.flush.platform =
      if es = [] ∨ e.startMouse.backend.ceiling < es.length ∨ e.platform.failing = true then
        e.platform
      else e.platform.take e.startMouse.backend es.toArray := by
  have hopen : e.startMouse.batch =
      some (.new e.startMouse.backend.ceiling e.startMouse.ledger.snapshot) := if_pos hbatch
  have hback : e.startMouse.backend ≠ .event := Backend.isBatch_iff.mp hbatch
  obtain ⟨hgiven, hp⟩ := hes.batch hopen hback
  have hp : s.platform = e.platform := hp
  rw [Run.flush_given hes.backend hgiven hback, hp]
  by_cases hemp : es = []
  · simp [hemp]
  · split_ifs with h1 h2 h2
    · exact hp
    · exact absurd h1 (by tauto)
    · exact absurd h2 (by tauto)
    · rfl

/-- A way has no keys on it. -/
lemma keys_hops (r : Run Desktop) (ps : List Point) (d : Desktop) :
    ((ps.flatMap r.hops).foldl Desktop.apply d).keys = d.keys := by
  induction ps generalizing d with
  | nil => rfl
  | cons p ps ih =>
    have hp : ((r.hops p).foldl Desktop.apply d).keys = d.keys := by
      unfold Run.hops
      rw [List.foldl_cons]
      cases r.backend.mousePause r.delays.mouse <;> exact Desktop.keys_apply_mouse d _
    rw [List.flatMap_cons, List.foldl_append, ih, hp]

/-- **A failed click that goes in a batch touches no key.** Its fault is the wheel's count; without
a move it leaves the desktop as it was, and with one it leaves the engine where the move alone
leaves it. -/
theorem click_error {spec : ClickSpec} {f : Fault}
    (hbatch : e.startMouse.backend.isBatch = true) (hf : (e.click spec).1 = .error f) :
    f = .invalidValue .count (toString spec.count) ∧
      (e.click spec).2.platform.keys = e.platform.keys ∧
      (spec.move? = none → (e.click spec).2.platform = e.platform) ∧
      ∀ m, spec.move? = some m →
        (e.click spec).2 = (e.move m.x m.y m.speed m.relative).2 ∧
        let b := e.startMouse.backend
        let es := (e.startMouse.ground.route e.platform.cursor m).flatMap e.startMouse.hops
        (e.click spec).2.platform =
          if es = [] ∨ b.ceiling < es.length ∨ e.platform.failing = true then e.platform
          else e.platform.take b es.toArray := by
  obtain ⟨hcount, hmove⟩ := click_eq_error hf
  cases hm : spec.move? with
  | none =>
    have hp : (e.click spec).2.platform = e.platform := by
      rw [hmove, Run.approach, hm]
      exact (platform_flush_mouse hbatch (.refl _)).trans (if_pos (.inl rfl))
    exact ⟨hcount, by rw [hp], fun _ => hp, nofun⟩
  | some m =>
    have hclick : (e.click spec).2 = (e.move m.x m.y m.speed m.relative).2 := by
      rw [hmove, Run.approach, hm]
      rfl
    have hp := platform_flush_mouse hbatch (e.startMouse.emits_moveMouse m)
    rw [hclick]
    refine ⟨hcount, (congrArg Desktop.keys hp).trans ?_, nofun, fun n hn => ?_⟩
    · split_ifs
      · rfl
      · rw [Desktop.keys_take, keys_hops]
    · obtain rfl := Option.some_inj.mp hn
      exact ⟨rfl, hp⟩

/-- A wheel turned a notch too far at a point. -/
theorem click_error_of_wheel :
    let e := Engine.new Desktop.new { sendMode := .input }
    let spec : ClickSpec := { x := some 5, y := some 6, button := .wheelUp, count := 17895698 }
    (e.click spec).1 = .error (.invalidValue .count "17895698") ∧
      (e.click spec).2.platform.keys = e.platform.keys ∧
      (e.click spec).2 = (e.move 5 6 none false).2 := by
  intro e spec
  have hf : (e.click spec).1 = .error (.invalidValue .count "17895698") := by decide +kernel
  have hbatch : e.startMouse.backend.isBatch = true := by decide
  have h := click_error hbatch hf
  exact ⟨hf, h.2.1, (h.2.2.2 ⟨5, 6, none, false⟩ (by decide)).1⟩

/-- The cursor has moved though the click has failed. -/
theorem failed_click_moves :
    ¬∀ (e : Engine Desktop) (spec : ClickSpec), e.startMouse.backend.isBatch = true →
      (e.click spec).1 ≠ .ok () →
      let p := (e.click spec).2.platform
      p.log.events = e.platform.log.events ∧ p.log.flushes = e.platform.log.flushes ∧
        p.cursor = e.platform.cursor ∧ p.keys = e.platform.keys ∧ p.clock = e.platform.clock := by
  intro h
  have hp := h (Engine.new Desktop.new { sendMode := .input })
    { x := some 5, y := some 6, button := .wheelUp, count := 17895698 } (by decide)
    (by decide +kernel)
  exact absurd hp.2.2.1 (by decide +kernel)

end Engine

end KeySynth
