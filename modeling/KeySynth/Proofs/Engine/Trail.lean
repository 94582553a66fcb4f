import KeySynth.Proofs.Engine.Agreement
import KeySynth.Proofs.Engine.Route
import KeySynth.Proofs.Engine.Upkeep

/-!
The trail of the cursor.

The mouse events of a run are the routes of its moves, in order, and button and wheel events that
carry the point that the moves before them have reached. Along the trail the run knows where the
cursor is: in a batch from the last move, event by event from the platform.
-/

namespace KeySynth

/-- Mouse events of moves made one after the other from `p` on, each at once or along its way, with
buttons and wheels between them that carry the point reached. -/
inductive Trail (g : Ground) (p : Point) : List Move → List MouseRecord → Prop where
  | nil : Trail g p [] []
  | jump {ms : List Move} {rs : List MouseRecord} (m : Move) : Trail g p ms rs → g.AtOnce m →
      Trail g p (ms ++ [m]) (rs ++ [g.hop (g.goal (g.reached p ms) m)])
  | glide {ms : List Move} {rs : List MouseRecord} (m : Move) : Trail g p ms rs → ¬g.AtOnce m →
      Trail g p (ms ++ [m]) (rs ++ (Path.points (g.reached p ms) (g.goal (g.reached p ms) m)
        (g.speedOf m)).map g.hop)
  | button {ms : List Move} {rs : List MouseRecord} {b : MouseRecord} : Trail g p ms rs →
      b.flags.Stays → b.point = g.reached p ms → Trail g p ms (rs ++ [b])

lemma Trail.move {g : Ground} {p : Point} {ms : List Move} {rs : List MouseRecord}
    (h : Trail g p ms rs) (m : Move) :
    Trail g p (ms ++ [m]) (rs ++ (g.route (g.reached p ms) m).map g.hop) := by
  unfold Ground.route
  split_ifs with hm
  · exact h.jump m hm
  · exact h.glide m hm

namespace Ground

variable (g : Ground) (p : Point)

lemma reached_snoc (ms : List Move) (m : Move) :
    g.reached p (ms ++ [m]) = g.goal (g.reached p ms) m := by
  simp [reached, List.foldl_append]

end Ground

/-- The event puts the cursor somewhere or leaves it where it is. -/
def EventRecord.Places : EventRecord → Prop
  | .mouse m => m.flags = .moveTo ∨ m.flags.Stays
  | .key _ | .delay _ => True

namespace Desktop

lemma cursor_apply {e : EventRecord} (he : e.Places) (d : Desktop) :
    (d.apply e).cursor = e.destination?.getD d.cursor := by
  cases e with
  | key k =>
    rw [apply_key]
    unfold applyKey
    split_ifs <;> rfl
  | mouse m =>
    rw [apply_mouse, applyMouse, EventRecord.destination?]
    rcases he with he | ⟨hto, hby⟩
    · have hto : MouseFlags.moveTo.has .moveTo = true := by decide
      simp [he, hto]
    · simp [hto, hby]
  | delay ms => rfl

lemma origin_apply (d : Desktop) (e : EventRecord) : (d.apply e).origin = d.origin := by
  cases e with
  | key k =>
    rw [apply_key]
    unfold applyKey
    split_ifs <;> rfl
  | mouse m =>
    rw [apply_mouse]
    unfold applyMouse
    split_ifs <;> rfl
  | delay ms => rfl

end Desktop

lemma EventRecord.places_carried {e : EventRecord} (b : Backend) (h : e.Places) :
    (e.carried b).Places ∧ (e.carried b).destination? = e.destination? := by
  cases e <;> exact ⟨h, rfl⟩

namespace Run

variable {d : Desktop} {p : Point} {r s : Run Desktop} {e : EventRecord}

lemma inject_one (d : Desktop) (e : EventRecord) :
    (Platform.inject d #[e]).2 = if d.failing then d else d.take .input #[e] := by
  change (d.inject #[e]).2 = _
  unfold Desktop.inject
  split_ifs <;> rfl

lemma origin_emit (r : Run Desktop) (e : EventRecord) :
    (r.emit e).platform.origin = r.platform.origin := by
  have hone : ∀ d : Desktop, ∀ e, (Platform.inject d #[e]).2.origin = d.origin := by
    intro d e
    rw [inject_one]
    split_ifs
    · rfl
    · exact d.origin_apply e
  cases hb : r.batch with
  | some b => rw [platform_emit_of_some hb]
  | none => rcases platform_emit_of_none hb e with hp | hp <;> rw [hp] <;> exact hone _ _

lemma origin_pause (r : Run Desktop) (q : Pause) :
    (r.pause q).platform.origin = r.platform.origin := by
  cases q with
  | mark ms =>
    unfold pause emitMark
    dsimp only
    split <;> rfl
  | none | sleep ms | wait ms => rfl

/-- No event and no pause changes the ground. -/
lemma ground_congr (hs : s.still = r.still) (ho : s.platform.origin = r.platform.origin) :
    s.ground = r.ground := by
  have hset : s.settings = r.settings := congrArg (·.settings) hs
  simp only [ground, still_backend hs, still_tag hs, hset, Platform.origin, ho]

lemma ground_emit (r : Run Desktop) (e : EventRecord) : (r.emit e).ground = r.ground :=
  ground_congr (r.still_emit e) (r.origin_emit e)

lemma ground_pause (r : Run Desktop) (q : Pause) : (r.pause q).ground = r.ground :=
  ground_congr (r.still_pause q) (r.origin_pause q)

/-- The cursor is at `p`: so the run has it, the events from `d` on have put it there, and those
that do not wait in a batch have got to the desktop. -/
structure At (d : Desktop) (p : Point) (r : Run Desktop) : Prop where
  cursor : r.cursor = p
  desk : (r.desk d).cursor = p
  direct : r.batch = none → r.platform.failing = false ∧ r.platform.cursor = p

namespace At

variable (h : r.At d p)
include h

lemma emit (he : e.Places) : (r.emit e).At d (e.destination?.getD p) := by
  obtain ⟨hplaces, hdest⟩ := e.places_carried r.backend he
  have hdirect : r.batch = none → (r.emit e).platform.failing = false ∧
      (r.emit e).platform.cursor = e.destination?.getD p := by
    intro hb
    obtain ⟨hw, hp⟩ := h.direct hb
    have hone : (Platform.inject r.platform #[e.carried r.backend]).2 =
        r.platform.take .input #[e.carried r.backend] := by simp [inject_one, hw]
    have hcursor : (r.platform.take .input #[e.carried r.backend]).cursor =
        e.destination?.getD p := by
      rw [← hdest, ← hp]
      exact Desktop.cursor_apply hplaces _
    have hfail := (r.platform.failing_take .input #[e.carried r.backend]).trans hw
    rcases platform_emit_of_none hb e with hq | hq <;> rw [hq, hone]
    · exact ⟨hfail, hcursor⟩
    · exact ⟨hfail, hcursor⟩
  refine ⟨?_, ?_, fun hb => hdirect (by simpa [batch_emit] using hb)⟩
  · have hpointer : (r.emit e).pointer = e.destination?.or r.pointer := by
      obtain ⟨q, b, hr⟩ := r.emit_eq e
      rw [hr]
    have hc := h.cursor
    rw [Run.cursor] at hc ⊢
    rw [hpointer]
    cases hd : e.destination? with
    | some q => rfl
    | none =>
      rw [Option.none_or]
      cases hb : r.batch with
      | some b => rwa [platform_emit_of_some hb]
      | none =>
        have hstays : (r.emit e).platform.cursor = r.platform.cursor := by
          rw [(hdirect hb).2, (h.direct hb).2, hd]
          rfl
        change r.pointer.getD (r.emit e).platform.cursor = _
        rwa [hstays]
  · rw [desk_emit, Desktop.cursor_apply hplaces, hdest, h.desk]

lemma pause (q : Pause) : (r.pause q).At d p := by
  have hdesk : ((r.pause q).desk d).cursor = p := by rw [desk_pause, h.desk]
  cases q with
  | mark ms =>
    unfold Run.pause emitMark at hdesk ⊢
    dsimp only at hdesk ⊢
    split
    · exact ⟨h.cursor, h.desk, nofun⟩
    · exact h
  | none | sleep ms | wait ms => exact ⟨h.cursor, hdesk, h.direct⟩

lemma moveTo (q : Point) : (r.moveTo q).At d q := by
  have hto : MouseFlags.moveTo.has .moveTo = true := by decide
  have hq := h.emit (e := .mouse (r.ground.hop q)) (.inl rfl)
  simp only [EventRecord.destination?, Ground.hop, hto, if_true, Option.getD_some] at hq
  exact hq.pause _

lemma foldl_moveTo (ps : List Point) : (ps.foldl Run.moveTo r).At d (ps.getLastD p) := by
  induction ps generalizing r p with
  | nil => exact h
  | cons q ps ih =>
    rw [List.getLastD_cons]
    exact ih (h.moveTo q)

end At

/-! ### The trail of a run -/

/-- On the ground `g` the run has made the moves `ms`, and is where they lead. -/
structure Traces (g : Ground) (d : Desktop) (ms : List Move) (r : Run Desktop) : Prop where
  ground : r.ground = g
  trail : Trail g d.cursor ms (r.sent.filterMap EventRecord.mouse?)
  reached : r.At d (g.reached d.cursor ms)

namespace Traces

variable {g : Ground} {ms : List Move} (h : r.Traces g d ms)
include h

lemma key (k : KeyRecord) : (r.emit (.key k)).Traces g d ms where
  ground := (r.ground_emit _).trans h.ground
  trail := by
    rw [sent_emit, List.filterMap_append]
    exact (List.append_nil _).symm ▸ h.trail
  reached := h.reached.emit (e := .key k) trivial

lemma pause (q : Pause) : (r.pause q).Traces g d ms where
  ground := (r.ground_pause q).trans h.ground
  trail := by
    rw [sent_pause]
    exact h.trail
  reached := h.reached.pause q

lemma flows {s : Run Desktop} (hf : Flows (fun e => ∃ k, e = .key k) r s) : s.Traces g d ms :=
  hf.invariant (fun _ _ hk hs => hk.elim fun k he => he ▸ hs.key k) (fun _ q _ hs => hs.pause q) h

/-- A button or a wheel moves where the cursor is. -/
lemma button {flags : MouseFlags} (hf : flags.Stays) (data : Int) :
    (r.emitMouse flags data r.cursor).mousePause.Traces g d ms := by
  have hcursor : r.cursor = g.reached d.cursor ms := h.reached.cursor
  have hdest : (EventRecord.mouse ⟨flags, data, r.cursor, r.tag⟩).destination? = none := by
    simp [EventRecord.destination?, hf.1]
  refine Traces.pause ⟨(r.ground_emit _).trans h.ground, ?_, ?_⟩ _
  · rw [sent_emit, List.filterMap_append]
    exact h.trail.button hf hcursor
  · have hr := h.reached.emit (e := .mouse ⟨flags, data, r.cursor, r.tag⟩) (.inr hf)
    rwa [hdest] at hr

lemma move (m : Move) :
    (r.moveMouse m.x m.y m.speed m.relative).Traces g d (ms ++ [m]) := by
  have hcursor : r.cursor = g.reached d.cursor ms := h.reached.cursor
  have hsent : ∀ (ps : List Point) (s : Run Desktop), s.ground = g →
      (ps.foldl moveTo s).ground = g ∧
        (ps.foldl moveTo s).sent = s.sent ++ ps.map fun p => .mouse (g.hop p) := by
    intro ps
    induction ps with
    | nil => exact fun s hs => ⟨hs, by simp⟩
    | cons p ps ih =>
      intro s hs
      have hp : (s.moveTo p).ground = g :=
        (ground_pause _ _).trans ((s.ground_emit _).trans hs)
      have hone : (s.moveTo p).sent = s.sent ++ [.mouse (g.hop p)] := by
        rw [← hs, Run.moveTo, mousePause, sent_pause, emitMouse, sent_emit]
        rfl
      obtain ⟨hg, he⟩ := ih (s.moveTo p) hp
      exact ⟨hg, by rw [List.foldl_cons, he, hone]; simp⟩
  rw [moveMouse_eq, h.ground, hcursor]
  obtain ⟨hground, he⟩ := hsent (g.route (g.reached d.cursor ms) m) r h.ground
  refine ⟨hground, ?_, ?_⟩
  · rw [he, List.filterMap_append]
    have hmap : (List.map (fun p => EventRecord.mouse (g.hop p))
        (g.route (g.reached d.cursor ms) m)).filterMap EventRecord.mouse? =
        (g.route (g.reached d.cursor ms) m).map g.hop := by
      rw [List.filterMap_map]
      exact congrFun (List.filterMap_eq_map (f := g.hop)) _
    rw [hmap]
    exact h.trail.move m
  · rw [Ground.reached_snoc, ← g.getLastD_route]
    exact h.reached.foldl_moveTo _

lemma press (b : Button) : (r.press b r.cursor).Traces g d ms := h.button b.stays_events.1 _

lemma release (b : Button) : (r.release b r.cursor).Traces g d ms := h.button b.stays_events.2 _

lemma session (mode : RawMode) (mods : Mask) (fault : Option Fault) :
    Traces g d ms { r with raw := mode, keyMods := mods, fault } :=
  ⟨h.ground, h.trail, h.reached.cursor, h.reached.desk, h.reached.direct⟩

lemma turnWheel (b : Button) (count : Nat) : (r.turnWheel b count).Traces g d ms := by
  unfold Run.turnWheel
  split
  · exact h.button b.stays_wheel _
  · exact h.session r.raw r.keyMods _

lemma clickButton (b : Button) (count : Nat) (action : ClickAction) :
    (r.clickButton b count action).Traces g d ms := by
  unfold Run.clickButton
  cases action with
  | down => exact h.press b
  | up => exact h.release b
  | downUp =>
    induction count with
    | zero => exact h
    | succ n ih =>
      have hpoint : ∀ {s : Run Desktop}, s.Traces g d ms → s.cursor = r.cursor := fun hs =>
        hs.reached.cursor.trans h.reached.cursor.symm
      have hdown := ih.press b
      rw [hpoint ih] at hdown
      have hup := hdown.release b
      rwa [hpoint hdown] at hup

/-- A click makes its move, whatever becomes of its wheel. -/
lemma click (spec : ClickSpec) : (r.click spec).Traces g d (ms ++ spec.move?.toList) := by
  have hrest : ∀ {s : Run Desktop} {ns : List Move}, s.Traces g d ns →
      Traces g d ns (if spec.count = 0 then s
        else if spec.button.isWheel then s.turnWheel spec.button spec.count
        else s.clickButton (s.physicalButton spec.button) spec.count spec.action) := by
    intro s ns hs
    split_ifs
    · exact hs
    · exact hs.turnWheel _ _
    · exact hs.clickButton _ _ _
  unfold Run.click ClickSpec.move?
  cases spec.x <;> cases spec.y
  case some.some x y => exact hrest (h.move ⟨x, y, spec.speed, spec.relative⟩)
  all_goals exact (List.append_nil ms).symm ▸ hrest h

lemma drag (b : Button) (start : Option Point) (goal : Point) (speed : Option Int)
    (relative : Bool) : (r.drag b start goal speed relative).Traces g d
      (ms ++ (start.map fun p => ⟨p.x, p.y, speed, relative⟩).toList ++
        [⟨goal.x, goal.y, speed, relative⟩]) := by
  unfold Run.drag
  cases start with
  | none =>
    rw [Option.map_none, Option.toList_none, List.append_nil]
    exact ((h.press _).move ⟨goal.x, goal.y, speed, relative⟩).release _
  | some p =>
    have hp := h.move ⟨p.x, p.y, speed, relative⟩
    exact ((hp.press _).move ⟨goal.x, goal.y, speed, relative⟩).release _

end Traces

/-- What is done with keys leaves no trace. -/
lemma upkeep_traces (g : Ground) (d : Desktop) (ms : List Move) :
    KeyUpkeep (fun _ _ _ => True) (fun _ => True) (Traces g d ms) where
  stroke {r motion _ _} _ h := h.flows ((Flows.refl r).strike motion fun _ _ => ⟨_, rfl⟩)
  unit _ _ h := h.key _
  pause p h := h.pause p
  reconcile {r desired} w _ h := r.reconcile_invariant (I := Traces g d ms)
    (fun _ _ _ hs => hs.key _) (fun _ hs => (hs.key _).key _)
    (fun _ _ hs => ((hs.key _).key _).key _) (fun _ hs => hs.pause _) h desired w
  tap _ _ h := (h.key _).key _
  note _ _ h := ⟨h.ground, h.trail, h.reached.cursor, h.reached.desk, h.reached.direct⟩
  session mode mods fault h := h.session mode mods fault

end Run

/-- The move that a token makes. -/
def Token.move? : Token → Option Move
  | .click spec => spec.move?
  | _ => none

namespace Run

variable {g : Ground} {d : Desktop} {ms : List Move} {r : Run Desktop}

lemma Traces.act (h : r.Traces g d ms) (t : Token) :
    (r.act t).Traces g d (ms ++ t.move?.toList) := by
  have u := upkeep_traces g d ms
  by_cases hclick : ∃ spec, t = .click spec
  · obtain ⟨spec, rfl⟩ := hclick
    exact ((u.ready h).click spec).session _ _ _
  · have hmove : t.move? = none := by
      cases t <;> first | rfl | exact absurd ⟨_, rfl⟩ hclick
    rw [hmove, Option.toList_none, List.append_nil]
    refine u.act (heeds_any t) (fun spec hspec s hs => ?_) h
    match t with
    | .click _ => exact absurd ⟨_, rfl⟩ hclick
    | .key (.named (.mouse b)) action =>
      obtain rfl : ClickSpec.ofKey b action = spec := hspec
      exact (List.append_nil ms) ▸ hs.click (ClickSpec.ofKey b action)

/-- A text that meets no fault makes all its moves. -/
theorem Traces.interpret (h : r.Traces g d ms) {ts : List Token}
    (hf : (r.interpret ts).fault = none) :
    (r.interpret ts).Traces g d (ms ++ ts.filterMap Token.move?) := by
  refine r.interpret_induction (I := fun ts s => s.Traces g d (ms ++ ts.filterMap Token.move?))
    ?_ (fun us t s hs => ?_) hf
  · rwa [List.filterMap_nil, List.append_nil]
  · have ht := hs.act t
    rw [List.filterMap_append, ← List.append_assoc]
    cases hm : t.move? <;> simpa [hm] using ht

end Run

end KeySynth
