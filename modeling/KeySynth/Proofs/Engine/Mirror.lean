import KeySynth.Proofs.Engine.Cursor
import KeySynth.Proofs.Engine.View

/-!
Swapped buttons.

A desktop whose buttons are swapped records the left button for the right one and the right one for
the left, and is otherwise the desktop that it would be without that. A `Guise` shows a run as it is
on the other desktop; whatever a run does it does in any guise. What has been recorded before is
never read, so a guise may put anything there.
-/

namespace KeySynth

/-- The left button in the place of the right one and the right one in that of the left. -/
def MouseFlags.mirrored (f : MouseFlags) : MouseFlags :=
  if f = .leftDown then .rightDown
  else if f = .rightDown then .leftDown
  else if f = .leftUp then .rightUp
  else if f = .rightUp then .leftUp
  else f

/-- The same event with the left and the right button changed over. -/
def EventRecord.mirrored : EventRecord → EventRecord
  | .mouse m => .mouse { m with flags := m.flags.mirrored }
  | e => e

lemma MouseFlags.has_mirrored (f : MouseFlags) {g : MouseFlags} (hg : g = .move ∨ g = .moveTo) :
    f.mirrored.has g = f.has g := by
  unfold mirrored
  split_ifs with h h h h
  on_goal 5 => rfl
  all_goals
    subst h
    rcases hg with rfl | rfl <;> decide

lemma Run.isWheel_physicalButton {P : Type} [Platform P] (r : Run P) (b : Button) :
    (r.physicalButton b).isWheel = b.isWheel := by
  unfold physicalButton
  split_ifs
  · cases b <;> rfl
  · rfl

/-- The same desktop with its buttons swapped, or swapped back. -/
def Desktop.swapButtons (d : Desktop) : Desktop := { d with buttonsSwapped := !d.buttonsSwapped }

/-- Another sight of a desktop: with the buttons changed over, or not, and with something recorded
before. -/
structure Guise where
  swaps : Bool
  before : Recording

namespace Guise

variable (g : Guise)

def flags (f : MouseFlags) : MouseFlags := if g.swaps then f.mirrored else f

def event (e : EventRecord) : EventRecord := if g.swaps then e.mirrored else e

def recording (l : Recording) : Recording where
  events := g.before.events ++ l.events.map g.event
  flushes := g.before.flushes ++ l.flushes
  sleeps := g.before.sleeps ++ l.sleeps
  waits := g.before.waits ++ l.waits

lemma recording_empty : g.recording .empty = g.before := by simp [recording, Recording.empty]

def desktop (d : Desktop) : Desktop :=
  { d with
    buttonsSwapped := if g.swaps then !d.buttonsSwapped else d.buttonsSwapped
    log := g.recording d.log }

def engine (e : Engine Desktop) : Engine Desktop := { e with platform := g.desktop e.platform }

def batch (b : Batch) : Batch := { b with events := b.events.map g.event }

def run (r : Run Desktop) : Run Desktop :=
  { r with
    platform := g.desktop r.platform
    batch := r.batch.map g.batch
    journal := r.journal.map fun em => { em with event := g.event em.event } }

/-! ### Events -/

@[simp] lemma event_key (k : KeyRecord) : g.event (.key k) = .key k := ite_self _

@[simp] lemma event_delay (ms : Nat) : g.event (.delay ms) = .delay ms := ite_self _

@[simp] lemma event_mouse (m : MouseRecord) :
    g.event (.mouse m) = .mouse { m with flags := g.flags m.flags } := by
  unfold event flags
  split_ifs <;> rfl

lemma has_flags (f : MouseFlags) {h : MouseFlags} (hh : h = .move ∨ h = .moveTo) :
    (g.flags f).has h = f.has h := by
  unfold flags
  split_ifs
  · exact f.has_mirrored hh
  · rfl

lemma flags_moveTo : g.flags .moveTo = .moveTo := by
  unfold flags
  split_ifs
  · decide
  · rfl

lemma flags_wheel (b : Button) : g.flags b.wheel = b.wheel := by
  unfold flags
  split_ifs
  · cases b <;> decide
  · rfl

lemma isDelay_event (e : EventRecord) : (g.event e).isDelay = e.isDelay := by
  cases e <;> simp [EventRecord.isDelay]

lemma destination?_event (e : EventRecord) : (g.event e).destination? = e.destination? := by
  cases e <;> simp [EventRecord.destination?, g.has_flags _ (.inr rfl)]

lemma isModifierKey_event (e : EventRecord) : (g.event e).isModifierKey = e.isModifierKey := by
  cases e <;> simp [EventRecord.isModifierKey]

lemma note_event (l : Ledger) (altgr : Bool) (e : EventRecord) :
    l.note altgr (g.event e) = l.note altgr e := by
  cases e <;> simp [Ledger.note]

lemma carried_event (b : Backend) (e : EventRecord) :
    (g.event e).carried b = g.event (e.carried b) := by
  cases e <;> simp [EventRecord.carried]

/-! ### The desktop -/

lemma apply_event (d : Desktop) (e : EventRecord) :
    (g.desktop d).apply (g.event e) = g.desktop (d.apply e) := by
  cases e with
  | key k =>
    rw [event_key, Desktop.apply, Desktop.apply, Desktop.applyKey, Desktop.applyKey]
    split_ifs <;> rfl
  | mouse m =>
    rw [event_mouse, Desktop.apply, Desktop.apply, Desktop.applyMouse, Desktop.applyMouse]
    simp only [g.has_flags _ (.inl rfl), g.has_flags _ (.inr rfl)]
    split_ifs <;> rfl
  | delay ms =>
    rw [event_delay]
    rfl

lemma take_map (d : Desktop) (b : Backend) (es : Array EventRecord) :
    (g.desktop d).take b (es.map g.event) = g.desktop (d.take b es) := by
  have happly : (es.map g.event).foldl Desktop.apply (g.desktop d) =
      g.desktop (es.foldl Desktop.apply d) := by
    rw [Array.foldl_map]
    exact Array.foldl_hom g.desktop g.apply_event
  have hkept : (es.map g.event).filter (!·.isDelay) = (es.filter (!·.isDelay)).map g.event := by
    rw [Array.filter_map]
    congr 1
    exact congrArg (fun p => es.filter p) (funext fun e => by simp [isDelay_event])
  have hlog : ∀ (l : Recording) (es : Array EventRecord) (f : Flush),
      g.recording { l with events := l.events ++ es, flushes := l.flushes.push f } =
        { g.recording l with
          events := (g.recording l).events ++ es.map g.event
          flushes := (g.recording l).flushes.push f } := by
    simp [recording]
  rw [Desktop.take, happly, hkept, Array.size_map]
  exact congrArg (fun l => { g.desktop (es.foldl Desktop.apply d) with log := l })
    (hlog _ _ _).symm

lemma inject_map (d : Desktop) (es : Array EventRecord) :
    (g.desktop d).inject (es.map g.event) = ((d.inject es).1, g.desktop (d.inject es).2) := by
  have hfail : (g.desktop d).failing = d.failing := rfl
  rw [Desktop.inject, Desktop.inject, hfail, take_map, Array.size_map]
  split_ifs <;> rfl

lemma play_map (d : Desktop) (es : Array EventRecord) :
    (g.desktop d).play (es.map g.event) = ((d.play es).1, g.desktop (d.play es).2) := by
  have hfail : (g.desktop d).failing = d.failing := rfl
  rw [Desktop.play, Desktop.play, hfail, take_map]
  split_ifs <;> rfl

lemma sleep_desktop (d : Desktop) (ms : Nat) : (g.desktop d).sleep ms = g.desktop (d.sleep ms) := by
  simp only [Desktop.sleep, desktop, recording, Array.push_append]

lemma wait_desktop (d : Desktop) (ms : Nat) : (g.desktop d).wait ms = g.desktop (d.wait ms) := by
  simp only [Desktop.wait, desktop, recording, Array.push_append]

/-! ### Runs -/

lemma push_batch (b : Batch) (e : EventRecord) :
    (g.batch b).push (g.event e) = g.batch (b.push e) := by
  have hsize : (g.batch b).size = b.size := Array.size_map
  unfold Batch.push
  rw [hsize]
  change (if b.discarded then _ else if b.ceiling ≤ b.size then _ else _) = _
  split_ifs
  · rfl
  · exact congrArg (fun es => { b with events := es, discarded := true }) Array.map_empty.symm
  · exact congrArg (fun es => { b with events := es }) Array.map_push.symm

variable (r : Run Desktop)

lemma run_dispatch (e : EventRecord) : g.run (r.dispatch e) = (g.run r).dispatch (g.event e) := by
  have hone := g.inject_map r.platform #[e]
  rw [Array.map_singleton] at hone
  have hb : (g.run r).batch = r.batch.map g.batch := rfl
  unfold Run.dispatch
  rw [hb]
  cases r.batch with
  | none => exact congrArg (fun p => { g.run r with platform := p }) (congrArg Prod.snd hone).symm
  | some b => exact congrArg (fun b => { g.run r with batch := some b }) (g.push_batch b e).symm

lemma run_yieldAfter (e : EventRecord) :
    g.run (r.yieldAfter e) = (g.run r).yieldAfter (g.event e) := by
  have hb : (g.run r).batch.isNone = r.batch.isNone := Option.isNone_map
  unfold Run.yieldAfter
  rw [hb, isModifierKey_event]
  change _ = if r.ownWindow && _ && _ then _ else _
  split_ifs
  · exact congrArg (fun p => { g.run r with platform := p }) (g.wait_desktop r.platform 0).symm
  · rfl

lemma run_emit (e : EventRecord) : g.run (r.emit e) = (g.run r).emit (g.event e) := by
  unfold Run.emit
  dsimp only
  rw [run_yieldAfter, run_dispatch, note_event, destination?_event, carried_event]
  rfl

lemma run_pause (p : Pause) : g.run (r.pause p) = (g.run r).pause p := by
  cases p with
  | none => rfl
  | mark ms =>
    have hb : (g.run r).batch = r.batch.map g.batch := rfl
    rw [Run.pause, Run.emitMark, Run.pause, Run.emitMark, hb]
    cases r.batch with
    | none => rfl
    | some b =>
      refine congrArg (fun b => { g.run r with batch := some b }) ?_
      rw [← g.push_batch, event_delay]
  | sleep ms => exact congrArg (fun p => { g.run r with platform := p }) (g.sleep_desktop _ ms).symm
  | wait ms => exact congrArg (fun p => { g.run r with platform := p }) (g.wait_desktop _ ms).symm

lemma view_run : Run.View g.run where
  seen _ := rfl
  fault _ := rfl
  keyAt _ _ := rfl
  scanOf _ _ := rfl
  chord _ _ := rfl
  emit r k := (g.run_emit r (.key k)).trans (by rw [event_key])
  keyPause r := g.run_pause r _
  pressPause r := g.run_pause r _
  settle r := by
    change _ = if r.backend = .input then g.run r else (g.run r).pressPause
    split_ifs
    · rfl
    · exact g.run_pause r _
  noteExplicit _ _ e := by cases e <;> rfl
  keyMods _ _ := rfl
  raw _ _ := rfl
  fail _ _ := rfl

/-! ### The mouse -/

lemma cursor_run : (g.run r).cursor = r.cursor := rfl

lemma run_emitMouse (f : MouseFlags) (data : Int) (p : Point) :
    g.run (r.emitMouse f data p) = (g.run r).emitMouse (g.flags f) data p := by
  rw [Run.emitMouse, run_emit, event_mouse]
  rfl

lemma run_mousePause : g.run r.mousePause = (g.run r).mousePause := g.run_pause r _

lemma run_moveTo (p : Point) : g.run (r.moveTo p) = (g.run r).moveTo p := by
  rw [Run.moveTo, Run.moveTo, run_mousePause, run_emitMouse, flags_moveTo]

/-- Where a move goes, and how fast, has nothing to do with buttons. -/
lemma run_moveMouse (x y : Int) (speed : Option Int) (relative : Bool) :
    g.run (r.moveMouse x y speed relative) = (g.run r).moveMouse x y speed relative := by
  have hgo : (g.run r).moveMouse x y speed relative =
      if r.moveSpeed speed = 0 ∨ r.backend = .input then
        (g.run r).moveTo (r.resolvePoint x y relative)
      else (Path.points r.cursor (r.resolvePoint x y relative) (r.moveSpeed speed)).foldl
        Run.moveTo (g.run r) := rfl
  rw [hgo, Run.moveMouse]
  split_ifs
  · exact g.run_moveTo r _
  · exact (List.foldl_hom g.run fun s p => (g.run_moveTo s p).symm).symm

/-- The button that a system takes for the one that this system does. -/
def button (b : Button) : Button := if g.swaps then b.swapped else b

lemma physicalButton_run (b : Button) :
    (g.run r).physicalButton b = g.button (r.physicalButton b) := by
  have hswap : b.swapped.swapped = b := by cases b <;> rfl
  have hdesktop : Platform.buttonsSwapped (g.run r).platform =
      if g.swaps then !Platform.buttonsSwapped r.platform
      else Platform.buttonsSwapped r.platform := rfl
  unfold Run.physicalButton button
  rw [hdesktop]
  cases g.swaps <;> cases Platform.buttonsSwapped r.platform <;> simp [hswap]

/-- The events of the other button are those of the button, changed over. -/
lemma events_button {b : Button} (hb : b.isWheel = false) :
    (g.button b).events =
      ⟨g.flags b.events.down, g.flags b.events.up, b.events.data⟩ := by
  unfold button flags
  split_ifs
  · cases b with
    | left | right | middle | x1 | x2 => rfl
    | wheelUp | wheelDown | wheelLeft | wheelRight => cases hb
  · rfl

variable {b : Button} (hb : b.isWheel = false)
include hb

lemma run_press (p : Point) : g.run (r.press b p) = (g.run r).press (g.button b) p := by
  rw [Run.press, Run.press, run_mousePause, run_emitMouse, g.events_button hb]

lemma run_release (p : Point) : g.run (r.release b p) = (g.run r).release (g.button b) p := by
  rw [Run.release, Run.release, run_mousePause, run_emitMouse, g.events_button hb]

lemma run_clickButton (count : Nat) (action : ClickAction) :
    g.run (r.clickButton b count action) = (g.run r).clickButton (g.button b) count action := by
  cases action with
  | down => exact g.run_press r hb _
  | up => exact g.run_release r hb _
  | downUp =>
    refine Run.View.iterate (fun s => ?_) count r
    rw [run_release _ _ hb, run_press _ _ hb]
    rfl

omit hb

lemma run_turnWheel (count : Nat) : g.run (r.turnWheel b count) = (g.run r).turnWheel b count := by
  unfold Run.turnWheel
  split
  · rw [run_mousePause, run_emitMouse, flags_wheel]
    rfl
  · rfl

lemma run_approach (spec : ClickSpec) : g.run (r.approach spec) = (g.run r).approach spec := by
  unfold Run.approach
  split
  · exact g.run_moveMouse r _ _ _ _
  · rfl

lemma run_click (spec : ClickSpec) : g.run (r.click spec) = (g.run r).click spec := by
  rw [Run.click_approach, Run.click_approach, ← run_approach]
  dsimp only
  split_ifs with h0 hw
  · rfl
  · exact g.run_turnWheel _ _
  · rw [physicalButton_run]
    exact g.run_clickButton _ ((Run.isWheel_physicalButton _ _).trans (by simpa using hw)) _ _

lemma run_drag (hb : b.isWheel = false) (start : Option Point) (goal : Point)
    (speed : Option Int) (relative : Bool) :
    g.run (r.drag b start goal speed relative) = (g.run r).drag b start goal speed relative := by
  have hphys : (r.physicalButton b).isWheel = false := (r.isWheel_physicalButton b).trans hb
  unfold Run.drag
  cases start <;>
    simp only [physicalButton_run, cursor_run, ← run_moveMouse, ← g.run_press _ hphys,
      ← g.run_release _ hphys]

/-! ### Sends -/

lemma run_discard : g.run r.discard = (g.run r).discard := by
  have hb : (g.run r).batch = r.batch.map g.batch := rfl
  unfold Run.discard
  rw [hb]
  cases r.batch <;> rfl

lemma run_flush : g.run r.flush = (g.run r).flush := by
  have hb : (g.run r).batch = r.batch.map g.batch := rfl
  unfold Run.flush
  rw [hb]
  cases r.batch with
  | none => rfl
  | some b =>
    have hplay : Platform.play (g.run r).platform (g.batch b).events =
        ((Platform.play r.platform b.events).1, g.desktop (Platform.play r.platform b.events).2) :=
      g.play_map r.platform b.events
    have hinject : Platform.inject (g.run r).platform (g.batch b).events =
        ((Platform.inject r.platform b.events).1,
          g.desktop (Platform.inject r.platform b.events).2) :=
      g.inject_map r.platform b.events
    have hempty : (g.batch b).events.isEmpty = b.events.isEmpty := by simp [batch, Array.isEmpty]
    have hdiscarded : (g.batch b).discarded = b.discarded := rfl
    have hback : (g.run r).backend = r.backend := rfl
    have hsize : (g.batch b).size = b.size := Array.size_map
    dsimp only [Option.map_some]
    rw [hplay, hinject, hempty, hsize, hdiscarded, hback]
    split_ifs
    · rfl
    · rfl
    · rcases Platform.play r.platform b.events with ⟨_ | _, p⟩ <;> rfl
    · rcases Platform.inject r.platform b.events with ⟨_ | n, p⟩
      · rfl
      · dsimp only
        split_ifs <;> rfl

lemma run_leave (capsLock : Bool) : g.run (r.leave capsLock) = (g.run r).leave capsLock := by
  have hb : (g.run r).batch.isSome = r.batch.isSome := Option.isSome_map
  have hf : (g.run r).fault = r.fault := rfl
  unfold Run.leave
  rw [hb, hf, ← g.view_run.putBack, ← run_flush, ← run_discard]
  split_ifs <;> rfl

lemma run_interpret (ts : List Token) : g.run (r.interpret ts) = (g.run r).interpret ts :=
  g.view_run.interpret (fun digits _ _ => g.view_run.sendAsc rfl digits)
    (fun _ _ spec _ r => g.run_click r spec) r

lemma run_storeCapsLock : g.run r.storeCapsLock = (g.run r).storeCapsLock := by
  have hstores : (g.run r).storesCapsLock = r.storesCapsLock := rfl
  unfold Run.storeCapsLock
  rw [hstores, ← g.view_run.tapLock]
  split_ifs <;> rfl

lemma run_type (ts : List Token) : g.run (r.type ts) = (g.run r).type ts := by
  rw [Run.type, run_leave, run_interpret, run_storeCapsLock]
  rfl

/-! ### Engines -/

variable (e : Engine Desktop)

lemma outcome_run : (g.run r).outcome = Prod.map id g.engine r.outcome := rfl

lemma run_start (mode : SendMode) (literal : RawMode) (target : Option WindowId) :
    g.run (e.start mode literal target) = (g.engine e).start mode literal target := by
  have hbatch : (e.start mode literal target).batch.map g.batch =
      (e.start mode literal target).batch := by
    unfold Engine.start
    dsimp only
    split_ifs <;> simp [batch, Batch.new]
  exact congrArg (fun b => { (g.engine e).start mode literal target with batch := b }) hbatch

lemma run_opened (ts : List Token) (o : SendOptions) :
    g.run (e.opened ts o) = (g.engine e).opened ts o :=
  congrArg (·.enter (Token.exclusions ts)) (g.run_start e.resync _ _ _)

lemma run_startMouse : g.run e.startMouse = (g.engine e).startMouse := g.run_start e _ _ _

lemma send_engine (text : String) (o : SendOptions) :
    (g.engine e).send text o = Prod.map id g.engine (e.send text o) := by
  unfold Engine.send
  dsimp only
  split_ifs
  · rfl
  · rw [Engine.sendRun, Engine.sendRun, ← outcome_run, run_type, run_opened]

lemma move_engine (x y : Int) (speed : Option Int) (relative : Bool) :
    (g.engine e).move x y speed relative = Prod.map id g.engine (e.move x y speed relative) := by
  rw [Engine.move, Engine.move, Engine.moveRun, Engine.moveRun, ← outcome_run, run_flush,
    run_moveMouse, run_startMouse]

lemma click_engine (spec : ClickSpec) :
    (g.engine e).click spec = Prod.map id g.engine (e.click spec) := by
  rw [Engine.click, Engine.click, Engine.clickRun, Engine.clickRun, ← outcome_run, run_flush,
    run_click, run_startMouse]

lemma drag_engine (b : Button) (start : Option Point) (goal : Point) (speed : Option Int)
    (relative : Bool) : (g.engine e).drag b start goal speed relative =
      Prod.map id g.engine (e.drag b start goal speed relative) := by
  unfold Engine.drag
  split_ifs with hb
  · rfl
  · rw [Engine.dragRun, Engine.dragRun, ← outcome_run, run_flush,
      run_drag _ _ (Bool.eq_false_iff.mpr hb), run_startMouse]

lemma serve_engine (q : Request) :
    (g.engine e).answer q = e.answer q ∧ (g.engine e).serve q = g.engine (e.serve q) := by
  cases q with
  | send text o => exact Prod.ext_iff.mp (g.send_engine e text o)
  | move x y speed relative => exact Prod.ext_iff.mp (g.move_engine e x y speed relative)
  | click spec => exact Prod.ext_iff.mp (g.click_engine e spec)
  | drag b start goal speed relative =>
    exact Prod.ext_iff.mp (g.drag_engine e b start goal speed relative)

end Guise

namespace Engine

/-- Requests one after the other, each by settings of its own: how they went, and the engine after
the last. -/
def serveAll {P : Type} [Platform P] (e : Engine P) :
    List (Settings × Request) → List (Except Fault Unit) × Engine P
  | [] => ([], e)
  | (s, q) :: qs =>
    let e := { e with settings := s }
    let (answers, f) := (e.serve q).serveAll qs
    (e.answer q :: answers, f)

lemma serveAll_guise (g : Guise) (e : Engine Desktop) (qs : List (Settings × Request)) :
    (g.engine e).serveAll qs = Prod.map id g.engine (e.serveAll qs) := by
  induction qs generalizing e with
  | nil => rfl
  | cons sq qs ih =>
    obtain ⟨s, q⟩ := sq
    have hs : { g.engine e with settings := s } = g.engine { e with settings := s } := rfl
    rw [serveAll, serveAll, hs, (g.serve_engine _ q).1, (g.serve_engine _ q).2, ih]
    rfl

/-- **Swapped buttons change nothing else**: whatever is asked of an engine, in whatever modes, it
answers the same on a desktop with its buttons the other way round, and leaves that desktop and
itself the same but for that and for the buttons recorded meanwhile, which are changed over. -/
theorem serveAll_swapButtons (e : Engine Desktop) (qs : List (Settings × Request)) :
    let e' : Engine Desktop := { e with platform := e.platform.swapButtons }
    (e'.serveAll qs).1 = (e.serveAll qs).1 ∧
    ∃ es : Array EventRecord,
      (e.serveAll qs).2.platform.log.events = e.platform.log.events ++ es ∧
      (e'.serveAll qs).2 = { (e.serveAll qs).2 with
        platform := { (e.serveAll qs).2.platform.swapButtons with
          log := { (e.serveAll qs).2.platform.log with
            events := e.platform.log.events ++ es.map (·.mirrored) } } } := by
  intro e'
  -- both engines are guises of one whose desktop has recorded nothing yet
  let clean : Engine Desktop := { e with platform := e.platform.clear }
  have h := serveAll_guise ⟨false, e.platform.log⟩ clean qs
  have h' := serveAll_guise ⟨true, e.platform.log⟩ clean qs
  have hplain : (Guise.mk false e.platform.log).engine clean = e :=
    congrArg (fun l => { e with platform := { e.platform with log := l } })
      (Guise.recording_empty ⟨false, e.platform.log⟩)
  have hswapped : (Guise.mk true e.platform.log).engine clean = e' :=
    congrArg (fun l => { e with platform := { e.platform.swapButtons with log := l } })
      (Guise.recording_empty ⟨true, e.platform.log⟩)
  rw [hplain] at h
  rw [hswapped] at h'
  rw [h, h']
  refine ⟨rfl, (clean.serveAll qs).2.platform.log.events, ?_, rfl⟩
  exact congrArg (e.platform.log.events ++ ·) (Array.map_id _)

/-- A button by its name and a drag, on a desktop with its buttons swapped. -/
example :
    let e := Engine.new Desktop.new.swapButtons {}
    let es := (e.serveAll [({}, .send "{LButton down}" .plain),
      ({ sendMode := .play }, .drag .right none ⟨0, 0⟩ (some 0) false)]).2.platform.log.events
    es.toList.filterMap (fun ev => ev.mouse?.map (·.flags)) =
      [.rightDown, .leftDown, .moveTo, .leftUp] := by decide +kernel

end Engine

end KeySynth
