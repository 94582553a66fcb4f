import KeySynth.Proofs.Engine.FailedClick
import KeySynth.Proofs.Engine.Signed
import KeySynth.Proofs.Engine.Trail

/-!
Where the cursor ends.

Whatever an engine is asked for, and in whatever mode, the cursor ends where the moves asked for
lead, one after the other, and what a desktop records of the mouse is their trail.
-/

namespace KeySynth

/-- With moves that are made at once a trail has one absolute move for each. -/
lemma Trail.length_moveTo {g : Ground} {p : Point} {ms : List Move} {rs : List MouseRecord}
    (h : Trail g p ms rs) (honce : ∀ m ∈ ms, g.AtOnce m) :
    (rs.filter (·.flags.has .moveTo)).length = ms.length := by
  induction h with
  | nil => rfl
  | @jump ms rs m _ _ ih =>
    have hto : (g.hop (g.goal (g.reached p ms) m)).flags.has .moveTo = true :=
      show MouseFlags.moveTo.has .moveTo = true by decide
    rw [List.filter_append, List.length_append, ih fun n hn => honce n (by simp [hn])]
    simp [hto]
  | glide m _ hm _ => exact absurd (honce m (by simp)) hm
  | button _ hb _ ih => simpa [hb.1] using ih honce

namespace Desktop

lemma cursor_apply_congr {d d' : Desktop} (h : d.cursor = d'.cursor) (e : EventRecord) :
    (d.apply e).cursor = (d'.apply e).cursor := by
  cases e with
  | key k => rw [cursor_apply (e := .key k) trivial, cursor_apply (e := .key k) trivial, h]
  | mouse m =>
    rw [apply_mouse, apply_mouse, applyMouse, applyMouse, h]
    split_ifs <;> first | rfl | exact h
  | delay ms => exact h

/-- Marks have nothing to do with the cursor. -/
lemma cursor_foldl_filter {d d' : Desktop} (h : d.cursor = d'.cursor) (es : List EventRecord) :
    ((es.filter (!·.isDelay)).foldl apply d).cursor = (es.foldl apply d').cursor := by
  induction es generalizing d d' with
  | nil => exact h
  | cons e es ih =>
    cases e with
    | delay ms => exact ih h
    | key k => exact ih (cursor_apply_congr h _)
    | mouse m => exact ih (cursor_apply_congr h _)

end Desktop

/-- What goes out once a run is at its end gets to a working desktop, if the batch has room. -/
lemma Run.Emits.flushed {r s : Run Desktop} {es : List EventRecord} {before : Holds} {p : Point}
    (h : Run.Emits r es s) (hsent : r.sent = [])
    (hopen : r.batch = if r.backend.isBatch then some (.new r.backend.ceiling before) else none)
    (hworks : r.platform.failing = false)
    (hroom : ∀ b, s.batch = some b → b.discarded = false) (hp : s.At r.platform p) :
    s.flush.platform.log.events = r.platform.log.events ++ s.sent.toArray ∧
      s.flush.platform.cursor = p := by
  have hes : s.sent = es.filter (!·.isDelay) := by rw [h.sent, hsent, List.nil_append]
  by_cases hbatch : r.backend.isBatch = true
  · rw [if_pos hbatch] at hopen
    have hback : r.backend ≠ .event := Backend.isBatch_iff.mp hbatch
    obtain ⟨hgiven, hplat⟩ := h.batch hopen hback
    have hfits : ¬r.backend.ceiling < es.length := by
      rw [← Batch.given_discarded _ before, hroom _ hgiven]
      decide
    have hdesk : (es.foldl Desktop.apply r.platform).cursor = p := by
      rw [← hp.desk, Run.desk, hes]
      exact (Desktop.cursor_foldl_filter rfl es).symm
    rw [Run.flush_given h.backend hgiven hback, hplat, if_neg (by simp [hfits, hworks]), hes]
    dsimp only
    split_ifs with hemp
    · subst hemp
      exact ⟨by simp, hdesk⟩
    · refine ⟨by rw [Desktop.log_take]; simp, ?_⟩
      rw [← hdesk, Desktop.take, ← Array.foldl_toList]
  · rw [if_neg hbatch] at hopen
    obtain ⟨hb, -, hlog, -⟩ := h.log hopen hworks
    rw [Run.flush, hb, hes]
    exact ⟨hlog, (hp.direct hb).2⟩

namespace Request

/-- The options of a text; without a text there are none. -/
def options : Request → SendOptions
  | .send _ o => o
  | .move .. | .click _ | .drag .. => .plain

/-- The moves that are asked for. -/
def moves : Request → List Move
  | .send text o => (Token.ofText o.raw text).filterMap Token.move?
  | .move x y speed relative => [⟨x, y, speed, relative⟩]
  | .click spec => spec.move?.toList
  | .drag _ start goal speed relative =>
    (start.map fun p => ⟨p.x, p.y, speed, relative⟩).toList ++ [⟨goal.x, goal.y, speed, relative⟩]

end Request

namespace Engine

variable {P : Type} [Platform P] (e : Engine P)

/-- The ground that the moves of a request are made on. -/
def ground (q : Request) : Ground where
  origin := Platform.origin e.platform e.settings.coordMode q.options.target
  backend := e.backendFor q.options
  speed := Text.signed e.settings.mouseSpeed
  tag := .ofLevel e.settings.sendLevel

/-- How a request went. -/
def answer : Request → Except Fault Unit
  | .send text o => (e.send text o).1
  | .move x y speed relative => (e.move x y speed relative).1
  | .click spec => (e.click spec).1
  | .drag b start goal speed relative => (e.drag b start goal speed relative).1

/-- The run of a request before its batch is sent, if there is anything to do. -/
def endOf : Request → Option (Run P)
  | .send text o =>
    if (Token.ofText o.raw text).isEmpty then none else some (e.typed (Token.ofText o.raw text) o)
  | .move x y speed relative => some (e.startMouse.moveMouse x y speed relative)
  | .click spec => some (e.startMouse.click spec)
  | .drag b start goal speed relative =>
    if b.isWheel then none else some (e.startMouse.drag b start goal speed relative)

/-- The batch of a request, if there is one, has room for everything. -/
def HasRoom (q : Request) : Prop :=
  ∀ r ∈ e.endOf q, ∀ b, r.batch = some b → b.discarded = false

instance (q : Request) : Decidable (e.HasRoom q) :=
  decidable_of_iff ((e.endOf q).all (fun r => r.batch.all (!·.discarded)) = true) (by
    unfold HasRoom
    cases e.endOf q with
    | none => simp
    | some r => cases hb : r.batch <;> simp [hb])

variable {e} {q : Request}

lemma fault_upTo {text : String} {o : SendOptions}
    (htext : ¬(Token.ofText o.raw text).isEmpty = true) (hok : (e.send text o).1 = .ok ()) :
    (e.upTo (Token.ofText o.raw text) o (Token.ofText o.raw text)).fault = none := by
  unfold send at hok
  dsimp only at hok
  rw [if_neg htext, Run.outcome_eq_ok, sendRun_eq, Run.fault_leave] at hok
  exact hok

/-- A request that goes well ends with its batch being sent. -/
lemma runOf_eq (hok : e.answer q = .ok ()) : e.runOf q = (e.endOf q).map Run.flush := by
  cases q with
  | send text o =>
    simp only [runOf, endOf]
    split_ifs with htext
    · rfl
    · rw [sendRun_eq, Run.leave, fault_upTo htext hok]
      rfl
  | move x y speed relative => rfl
  | click spec => rfl
  | drag b start goal speed relative =>
    simp only [runOf, endOf]
    split_ifs <;> rfl

/-- What a run has when it begins. -/
structure Begins (e : Engine P) (q : Request) (r : Run P) : Prop where
  platform : r.platform = e.platform
  journal : r.journal = []
  backend : r.backend = e.backendFor q.options
  batch : ∃ before, r.batch =
    if r.backend.isBatch then some (.new r.backend.ceiling before) else none

/-- To its end a run gives out one list of events. -/
lemma emits_endOf (hok : e.answer q = .ok ()) {s : Run P} (hs : e.endOf q = some s) :
    ∃ r es, Begins e q r ∧ Run.Emits r es s := by
  have hcourse : ∀ {s : Run P}, q.options = .plain →
      Run.Course (fun _ _ _ => True) e.startMouse s → ∃ r es, Begins e q r ∧ Run.Emits r es s := by
    intro s hplain hc
    obtain ⟨es, hes⟩ := hc.emits
    refine ⟨_, es, ⟨rfl, rfl, ?_, _, rfl⟩, hes⟩
    rw [hplain]
    rfl
  cases q with
  | send text o =>
    simp only [endOf] at hs
    split_ifs at hs
    obtain rfl := Option.some_inj.mp hs
    obtain ⟨es, hes⟩ := e.emits_typed (Token.ofText o.raw text) o
    exact ⟨_, es, ⟨rfl, rfl, rfl, _, rfl⟩, hes⟩
  | move x y speed relative =>
    obtain rfl := Option.some_inj.mp hs
    exact hcourse rfl (.moveMouse ..)
  | click spec =>
    obtain rfl := Option.some_inj.mp hs
    obtain ⟨t, ht, he⟩ := e.startMouse.click_eq (K := fun _ _ _ => True) spec
    have hf : spec.fault? = none :=
      (e.fault_clickRun spec).symm.trans ((e.clickRun spec).outcome_eq_ok.mp hok)
    rw [he, hf]
    exact hcourse rfl ht
  | drag b start goal speed relative =>
    simp only [endOf] at hs
    split_ifs at hs
    obtain rfl := Option.some_inj.mp hs
    exact hcourse rfl (.drag ..)

variable {e : Engine Desktop}

/-- The moves of a request are what its run makes. -/
lemma traces_endOf (hworks : e.platform.failing = false) (hok : e.answer q = .ok ())
    {s : Run Desktop} (hs : e.endOf q = some s) :
    s.Traces (e.ground q) e.platform q.moves := by
  have hstart : ∀ r : Run Desktop, r.platform = e.platform → r.pointer = none → r.sent = [] →
      r.ground = e.ground q → r.Traces (e.ground q) e.platform [] := by
    intro r hp hpointer hsent hg
    have hcursor : r.cursor = e.platform.cursor := by rw [Run.cursor, hpointer, ← hp]; rfl
    refine ⟨hg, by rw [hsent]; exact .nil, hcursor, by rw [Run.desk, hsent]; rfl, fun _ => ?_⟩
    rw [hp]
    exact ⟨hworks, rfl⟩
  cases q with
  | send text o =>
    simp only [endOf] at hs
    split_ifs at hs with htext
    obtain rfl := Option.some_inj.mp hs
    have u := Run.upkeep_traces
    have hopened := hstart (e.opened (Token.ofText o.raw text) o) rfl rfl rfl rfl
    have htyped := ((u _ _ _).storeCapsLock trivial hopened).interpret (fault_upTo htext hok)
    exact (u _ _ _).putBack trivial _ htyped
  | move x y speed relative =>
    obtain rfl := Option.some_inj.mp hs
    exact (hstart e.startMouse rfl rfl rfl rfl).move ⟨x, y, speed, relative⟩
  | click spec =>
    obtain rfl := Option.some_inj.mp hs
    exact (hstart e.startMouse rfl rfl rfl rfl).click spec
  | drag b start goal speed relative =>
    simp only [endOf] at hs
    split_ifs at hs
    obtain rfl := Option.some_inj.mp hs
    exact (hstart e.startMouse rfl rfl rfl rfl).drag b start goal speed relative

/-- **The cursor ends where it was sent**, whatever the mode and the speed: where the moves of the
request lead, one after the other. What is recorded of the mouse is their trail, with one absolute
move for each if they are made at once. -/
theorem cursor_served (hworks : e.platform.failing = false) (hok : e.answer q = .ok ())
    (hroom : e.HasRoom q) :
    let g := e.ground q
    (e.serve q).platform.cursor = g.reached e.platform.cursor q.moves ∧
      ∃ es : List EventRecord,
        (e.serve q).platform.log.events = e.platform.log.events ++ es.toArray ∧
        Trail g e.platform.cursor q.moves (es.filterMap EventRecord.mouse?) ∧
        ((∀ m ∈ q.moves, g.AtOnce m) →
          ((es.filterMap EventRecord.mouse?).filter (·.flags.has .moveTo)).length =
            q.moves.length) := by
  intro g
  rw [serve_eq, runOf_eq hok]
  cases hend : e.endOf q with
  | none =>
    have hmoves : q.moves = [] := by
      cases q with
      | send text o =>
        simp only [endOf] at hend
        split_ifs at hend with htext
        rw [Request.moves, List.isEmpty_iff.mp htext]
        rfl
      | move | click => cases hend
      | drag b =>
        simp only [endOf] at hend
        split_ifs at hend with hb
        simp [answer, drag, hb] at hok
    rw [hmoves]
    exact ⟨rfl, [], by simp, .nil, fun _ => rfl⟩
  | some s =>
    have ht := traces_endOf hworks hok hend
    obtain ⟨r, es, hr, hes⟩ := emits_endOf hok hend
    obtain ⟨before, hopen⟩ := hr.batch
    have hsent : r.sent = [] := by
      rw [Run.sent, hr.journal]
      rfl
    have hreached : s.At r.platform (g.reached e.platform.cursor q.moves) := by
      rw [hr.platform]
      exact ht.reached
    obtain ⟨hlog, hcursor⟩ :=
      hes.flushed hsent hopen (hr.platform ▸ hworks) (hroom s hend) hreached
    rw [hr.platform] at hlog
    exact ⟨hcursor, s.sent, hlog, ht.trail, ht.trail.length_moveTo⟩

/-- A click at a point, and one three pixels from there. -/
theorem cursor_served_of_clicks :
    let e := Engine.new Desktop.new { sendMode := .input }
    let q : Request := .send "{Click 5 6}{Click 3 4 Rel}" .plain
    e.answer q = .ok () ∧ e.HasRoom q ∧ (e.serve q).platform.cursor = ⟨8, 10⟩ := by
  intro e q
  have hok : e.answer q = .ok () := by decide +kernel
  have hroom : e.HasRoom q := by decide +kernel
  refine ⟨hok, hroom, ?_⟩
  rw [(cursor_served rfl hok hroom).1]
  decide +kernel

end Engine

end KeySynth
