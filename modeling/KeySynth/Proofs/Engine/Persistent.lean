import KeySynth.Proofs.Engine.Guard

/-!
A persistent modifier is never released behind the user's back.

What a text has put down for good is kept by all that an engine may be asked later, as long as no
text names its key: no event moves the key, the ledger goes on to have the modifier among the
persistent ones, and it is down in the system at every step.
-/

namespace KeySynth

open Modifier Recorder

/-- What an engine may be asked to do. -/
inductive Request where
  | send (text : String) (o : SendOptions)
  | move (x y : Int) (speed : Option Int) (relative : Bool)
  | click (spec : ClickSpec)
  | drag (b : Button) (start : Option Point) (goal : Point) (speed : Option Int) (relative : Bool)

/-- No text names the key of `m`, and the modifier keys that it does name have no scan code or one
of their own side. -/
def Request.Avoids (m : Modifier) : Request → Prop
  | .send text o => ∀ t ∈ Token.ofText o.raw text, t.Sided ∧ t.named? ≠ some m
  | .move .. | .click _ | .drag .. => True

namespace Run

variable {m : Modifier} {e : Engine Bench} {r s : Run Bench} {d : Desktop} {before : Holds}

/-- `m` is persistent, and the engine is otherwise as reliable as `e`. -/
structure Outlasts (m : Modifier) (e : Engine Bench) (r : Run Bench) : Prop where
  setting : r.platform.setting = e.platform.setting
  maskKey : r.maskKey = e.maskKey
  cache : ∀ l b, (l, b) ∈ r.ledger.layouts.entries → b = Platform.hasAltGr e.platform l
  persistent : m ∈ r.ledger.persistent

namespace Outlasts

variable (h : r.Outlasts m e)
include h

lemma of_still (hs : s.still = r.still) (hset : s.platform.setting = r.platform.setting) :
    s.Outlasts m e where
  setting := hset.trans h.setting
  maskKey := (still_maskKey hs).trans h.maskKey
  cache := by
    rw [still_layouts hs]
    exact h.cache
  persistent := by
    rw [still_persistent hs]
    exact h.persistent

lemma emit (ev : EventRecord) : (r.emit ev).Outlasts m e :=
  h.of_still (r.still_emit ev) (r.setting_emit ev)

lemma pause (p : Pause) : (r.pause p).Outlasts m e :=
  h.of_still (r.still_pause p) (r.setting_pause p)

lemma flows {Q : EventRecord → Prop} (hf : Flows Q r s) : s.Outlasts m e :=
  hf.invariant (fun _ ev _ hs => hs.emit ev) (fun _ p _ hs => hs.pause p) h

lemma noteExplicit {n : Modifier} (said : Explicit) (hn : n ≠ m) :
    (r.noteExplicit n said).Outlasts m e where
  setting := h.setting
  maskKey := h.maskKey
  cache := by cases said <;> exact h.cache
  persistent := mem_persistent_noteExplicit said hn h.persistent

/-- However a run ends, the modifier is persistent if it was so before and at the end. -/
lemma lands (hset : s.platform.setting = e.platform.setting) (hmask : s.maskKey = e.maskKey)
    (hl : Lands d before r.ledger s) (hbefore : m ∈ before.persistent) : s.Outlasts m e where
  setting := hset
  maskKey := hmask
  cache := by rcases hl.ledger with hl | hl | hl <;> rw [hl] <;> exact h.cache
  persistent := by
    rcases hl.ledger with hl | hl | hl <;> rw [hl]
    · exact h.persistent
    · exact hbefore
    · exact h.persistent

end Outlasts

/-- Whatever is sent, only a word on `m` itself could end its persistence. -/
lemma upkeep_outlasts (m : Modifier) (e : Engine Bench) :
    Upkeep (fun _ _ _ => True) (· ≠ m) (Outlasts m e) where
  stroke {r motion _ _} _ h := h.flows ((Flows.refl r).strike motion (Q := fun _ => True)
    fun _ _ => trivial)
  unit _ _ h := h.emit _
  mouse _ h := h.emit _
  pause p h := h.pause p
  reconcile {r desired} w _ h := h.flows
    ((Course.refl (K := fun _ _ _ => True) r).reconcile desired w).flows_any
  tap _ _ h := (h.emit _).emit _
  note said hn h := h.noteExplicit said hn
  session _ _ _ h := ⟨h.setting, h.maskKey, h.cache, h.persistent⟩

lemma heeds_outlasts {t : Token} (hn : t.named? ≠ some m) :
    Heeds (fun _ _ _ => True) (· ≠ m) (Outlasts m e) t := by
  have hchar : ∀ motion, CharLaw (fun _ _ _ => True) (Outlasts m e) motion := fun _ =>
    ⟨trivial, trivial, fun _ _ => trivial⟩
  match t with
  | .char c => exact hchar _
  | .key (.char c) a => exact hchar _
  | .key (.named (.key vk sc)) a =>
    intro r _
    refine ⟨trivial, fun n hk he => hn ?_⟩
    rw [r.resolved_eq] at hk
    exact he ▸ hk
  | .asc ds => exact ⟨trivial, fun _ _ => trivial⟩
  | .key (.named (.mouse b)) a => exact trivial
  | .modifier _ | .click _ | .raw | .text | .blind _ | .unicode _ | .invalidUnicode _
  | .unknown _ => exact trivial

/-- A run that has moved the mouse only. -/
structure Mouses (m : Modifier) (e : Engine Bench) (r : Run Bench) : Prop where
  outlasts : r.Outlasts m e
  arrives : Arrives e.platform.desktop e.ledger.snapshot r
  journal : ∀ em ∈ r.journal, em.event.Spares m

lemma Mouses.emit (h : r.Mouses m e) (k : MouseRecord) : (r.emit (.mouse k)).Mouses m e where
  outlasts := h.outlasts.emit _
  arrives := h.arrives.emit _
  journal em hem := by
    rw [journal_emit] at hem
    rcases List.mem_cons.mp hem with rfl | hem
    · exact EventRecord.spares_mouse m k
    · exact h.journal em hem

lemma Mouses.pause (h : r.Mouses m e) (p : Pause) : (r.pause p).Mouses m e where
  outlasts := h.outlasts.pause p
  arrives := h.arrives.pause p
  journal := by
    rw [journal_pause]
    exact h.journal

lemma Mouses.fail (h : r.Mouses m e) (f : Fault) : (r.fail f).Mouses m e :=
  ⟨⟨h.outlasts.setting, h.outlasts.maskKey, h.outlasts.cache, h.outlasts.persistent⟩,
    ⟨h.arrives.reached, h.arrives.batch⟩, h.journal⟩

end Run

namespace Engine

variable {P : Type} [Platform P]

/-- The run that a request comes to. -/
def runOf (e : Engine P) : Request → Option (Run P)
  | .send text o =>
    if (Token.ofText o.raw text).isEmpty then none else some (e.sendRun (Token.ofText o.raw text) o)
  | .move x y speed relative => some (e.moveRun x y speed relative)
  | .click spec => some (e.clickRun spec)
  | .drag b start goal speed relative =>
    if b.isWheel then none else some (e.dragRun b start goal speed relative)

/-- The engine after a request. -/
def serve (e : Engine P) : Request → Engine P
  | .send text o => (e.send text o).2
  | .move x y speed relative => (e.move x y speed relative).2
  | .click spec => (e.click spec).2
  | .drag b start goal speed relative => (e.drag b start goal speed relative).2

lemma serve_eq (e : Engine P) (q : Request) :
    e.serve q = ((e.runOf q).map (·.toEngine)).getD e := by
  cases q with
  | send text o =>
    unfold serve runOf send
    dsimp only
    split_ifs <;> rfl
  | move x y speed relative => rfl
  | click spec => rfl
  | drag b start goal speed relative =>
    unfold serve runOf drag
    dsimp only
    split_ifs <;> rfl

variable {m : Modifier} {e f g : Engine Bench} {q : Request} {r : Run Bench}

/-- `m` is down for good, on a layout without AltGr, and no hook has seen the user hold it. -/
structure Persists (m : Modifier) (e : Engine Bench) : Prop where
  plain : e.platform.Plain
  cache : e.Truthful
  mask : e.SidedMask
  unheld : e.platform.desktop.hook = true → m ∉ e.platform.desktop.physical
  persistent : m ∈ e.ledger.persistent
  down : Platform.isDown e.platform m.key = true

/-- What a run does to such a modifier, and what it leaves behind. -/
structure Serves (m : Modifier) (e : Engine Bench) (r : Run Bench) : Prop where
  outlasts : r.Outlasts m e
  reached : Run.Reached e.platform.desktop r
  journal : ∀ em ∈ r.journal, em.event.Spares m

namespace Persists

variable (h : e.Persists m)
include h

/-- The layouts that a run gets to know are known rightly. -/
lemma outlasts_start (mode : SendMode) (literal : RawMode) (target : Option WindowId) :
    (e.start mode literal target).Outlasts m e where
  setting := rfl
  maskKey := rfl
  cache l b hlb := by
    rcases LayoutCache.mem_entries_hasAltGr hlb with hmem | heq
    · exact h.cache l b hmem
    · obtain ⟨rfl, rfl⟩ := Prod.mk.inj heq
      rfl
  persistent := h.persistent

lemma resync : e.resync.Persists m := ⟨h.plain, h.cache, h.mask, h.unheld, h.persistent, h.down⟩

/-- The modifier is down and nobody is seen to hold it, so it stays persistent. -/
lemma outlasts_opened (ts : List Token) (o : SendOptions) : (e.opened ts o).Outlasts m e := by
  have hs := h.resync.outlasts_start (o.mode.getD e.settings.sendMode) o.raw o.target
  refine ⟨hs.setting, hs.maskKey, hs.cache, ?_⟩
  have hseen : m ∉ e.resync.seenPhysical := by
    unfold seenPhysical
    split_ifs with hhook
    · exact h.unheld hhook
    · exact Mask.not_mem_empty m
  refine Mask.mem_inter.mpr ⟨h.persistent, Mask.mem_sdiff.mpr ⟨mem_heldDown.mpr h.down, ?_⟩⟩
  exact fun hm => hseen (Mask.mem_inter.mp hm).1

/-- At no token of a text does the modifier cease to be persistent. -/
lemma outlasts_upTo {ts us : List Token} {o : SendOptions} (hsub : us ⊆ ts)
    (hnamed : ∀ t ∈ ts, t.named? ≠ some m) : (e.upTo ts o us).Outlasts m e :=
  (Run.upkeep_outlasts m e).interpret (fun t ht => Run.heeds_outlasts (hnamed t (hsub ht)))
    ((Run.upkeep_outlasts m e).storeCapsLock trivial (h.outlasts_opened ts o))

lemma serves_sendRun {ts : List Token} {o : SendOptions} (hsided : ∀ t ∈ ts, t.Sided)
    (hnamed : ∀ t ∈ ts, t.named? ≠ some m)
    (hdigits : ∀ ds, .asc ds ∈ ts → ∀ c ∈ ds.toList, c.isDigit = true) :
    Serves m e (e.sendRun ts o) := by
  have hup : (e.upTo ts o ts).Outlasts m e := h.outlasts_upTo (List.Subset.refl ts) hnamed
  have htyped : (e.typed ts o).Outlasts m e := hup.flows (Run.flows_putBack _ _)
  have hset : (e.sendRun ts o).platform.setting = e.platform.setting := by
    rw [sendRun_eq]
    unfold Run.leave
    split_ifs
    · exact (Run.setting_discard _).trans hup.setting
    · exact (Run.setting_flush _).trans htyped.setting
  have hmask : (e.sendRun ts o).maskKey = e.maskKey := Run.fixed_maskKey (e.fixed_sendRun ts o)
  have hkept : m ∈ (e.opened ts o).kept :=
    Mask.mem_union.mpr (.inl (h.outlasts_opened ts o).persistent)
  have hspared := spared_sendRun h.plain h.cache h.mask h.down hkept hsided hnamed hdigits
  have hjournal : ∀ em ∈ (e.sendRun ts o).journal, em.event.Spares m := fun em hem =>
    (hspared.journal em hem).1
  rcases lands_sendRun (e := e) ts o with hl | hl
  · exact ⟨hup.lands hset hmask hl h.persistent, hl.reached, hjournal⟩
  · exact ⟨htyped.lands hset hmask hl h.persistent, hl.reached, hjournal⟩

/-- Mouse events have nothing to do with modifiers. -/
lemma serves_mouse (hr : r.Mouses m e) : Serves m e r.flush := by
  have hl := hr.arrives.flush
  obtain ⟨p, l, b, hf⟩ := r.flush_eq
  refine ⟨hr.outlasts.lands ((Run.setting_flush r).trans hr.outlasts.setting) ?_ hl h.persistent,
    hl.reached, ?_⟩
  · rw [hf]
    exact hr.outlasts.maskKey
  · rw [hf]
    exact hr.journal

theorem serves_runOf (hq : q.Avoids m) (hr : e.runOf q = some r) : Serves m e r := by
  have hstart : e.startMouse.Mouses m e :=
    ⟨h.outlasts_start _ _ _, arrives_start _ _ _, nofun⟩
  have hmouse : ∀ (s : Run Bench) k, s.Mouses m e → (s.emit (.mouse k)).Mouses m e :=
    fun _ k hs => hs.emit k
  have hpause : ∀ (s : Run Bench) p, s.Mouses m e → (s.pause p).Mouses m e :=
    fun _ p hs => hs.pause p
  cases q with
  | send text o =>
    simp only [runOf] at hr
    split_ifs at hr
    cases hr
    exact h.serves_sendRun (fun t ht => (hq t ht).1) (fun t ht => (hq t ht).2)
      fun ds hds => (Token.digits_of_mem_ofText hds).2
  | move x y speed relative =>
    cases hr
    exact h.serves_mouse (Run.moveMouse_invariant hmouse hpause hstart x y speed relative)
  | click spec =>
    cases hr
    exact h.serves_mouse (Run.click_invariant hmouse hpause (fun _ f hs => hs.fail f) hstart spec)
  | drag b start goal speed relative =>
    simp only [runOf] at hr
    split_ifs at hr
    cases hr
    exact h.serves_mouse (Run.drag_invariant hmouse hpause hstart b start goal speed relative)

/-- Whatever part of a run's events has got through, the modifier is down. -/
lemma isDown_of_serves (hr : Serves m e r) {es : List EventRecord} (hes : es.Sublist r.sent) :
    (es.foldl Desktop.apply e.platform.desktop).isDown m.key = true := by
  have hdown : e.platform.desktop.isDown m.key = true := by
    rw [← h.down, isDown_eq]
    rfl
  exact (Run.isDown_of_sublist h.plain.altgr hr.journal hes).trans hdown

/-- A run leaves the modifier as safe as it was. -/
theorem of_serves (hr : Serves m e r) : r.toEngine.Persists m := by
  obtain ⟨es, hes, hk⟩ := hr.reached
  have hk : r.platform.desktop.keys = (es.foldl Desktop.apply e.platform.desktop).keys := hk
  obtain ⟨haltgr, hphys, hhook, -⟩ := e.platform.desktop.foldl_apply_eq es
  have hset := hr.outlasts.setting
  have hlayout : r.platform.layout = e.platform.layout := congrArg (·.2.1) hset
  have hlayouts : r.platform.altgrLayouts = e.platform.altgrLayouts := congrArg (·.2.2.1) hset
  have hchords : r.platform.chords = e.platform.chords := congrArg (·.2.2.2) hset
  refine ⟨⟨hlayout.trans h.plain.layout, hlayouts.trans h.plain.altgrLayouts,
    hchords.trans h.plain.chords, ?_⟩, ?_, ?_, fun hwatch => ?_, hr.outlasts.persistent, ?_⟩
  · have haltgr' : r.platform.desktop.altgr = _ := congrArg (·.altgr) hk
    exact (haltgr'.trans haltgr).trans h.plain.altgr
  · intro l b hlb
    rw [hr.outlasts.cache l b hlb]
    exact congrArg (fun ls : List LayoutId => ls.contains l || _) hlayouts.symm
  · rw [SidedMask, hr.outlasts.maskKey]
    exact h.mask
  · have hhook' : r.platform.desktop.hook = _ := congrArg (·.hook) hk
    rw [Desktop.keys_physical hk, hphys]
    exact h.unheld (hhook ▸ hhook' ▸ hwatch)
  · rw [isDown_eq]
    exact (Desktop.keys_isDown hk m.key).trans (h.isDown_of_serves hr hes)

theorem serve (hq : q.Avoids m) : (e.serve q).Persists m := by
  rw [serve_eq]
  cases hr : e.runOf q with
  | none => exact h
  | some r => exact h.of_serves (h.serves_runOf hq hr)

end Persists

/-- What may happen to an engine and its platform between two requests: anything but that keys are
moved or the ledger's modifiers are changed. -/
structure Meanwhile (m : Modifier) (e f : Engine Bench) : Prop where
  down : f.platform.desktop.down = e.platform.desktop.down
  physical : f.platform.desktop.physical = e.platform.desktop.physical
  holds : f.ledger.toHolds = e.ledger.toHolds
  layouts : f.ledger.layouts = e.ledger.layouts
  plain : f.platform.Plain
  mask : f.SidedMask
  unheld : f.platform.desktop.hook = true → m ∉ f.platform.desktop.physical

lemma Persists.meanwhile (h : e.Persists m) (hf : Meanwhile m e f) : f.Persists m where
  plain := hf.plain
  cache l b hlb := by
    rw [hf.layouts] at hlb
    rw [h.cache l b hlb]
    have hlayouts := hf.plain.altgrLayouts.trans h.plain.altgrLayouts.symm
    exact congrArg (fun ls : List LayoutId => ls.contains l || _) hlayouts.symm
  mask := hf.mask
  unheld := hf.unheld
  persistent := by
    rw [hf.holds]
    exact h.persistent
  down := by
    rw [← h.down, isDown_eq, isDown_eq]
    change f.platform.desktop.isDown m.key = e.platform.desktop.isDown m.key
    rw [Desktop.isDown, Desktop.isDown, hf.down, hf.physical]

/-- The second engine is the first one after some requests, none of which names the key of `m`. -/
inductive Lives (m : Modifier) (e : Engine Bench) : Engine Bench → Prop where
  | start : Lives m e e
  | serve {f : Engine Bench} {q : Request} : Lives m e f → q.Avoids m → Lives m e (f.serve q)
  | meanwhile {f g : Engine Bench} : Lives m e f → Meanwhile m f g → Lives m e g

lemma Persists.lives (h : e.Persists m) (hlife : Lives m e f) : f.Persists m := by
  induction hlife with
  | start => exact h
  | serve _ hq ih => exact ih.serve hq
  | meanwhile _ hf ih => exact ih.meanwhile hf

/-- **A persistent modifier is never released behind the user's back**: through all requests that
do not name its key it stays persistent, also after each token of a text, no event moves its key,
and it is down after any part of what is sent. -/
theorem persistent_stays (h : e.Persists m) (hlife : Lives m e f) :
    m ∈ f.ledger.persistent ∧ Platform.isDown f.platform m.key = true ∧
      (∀ q : Request, q.Avoids m → ∀ r : Run Bench, f.runOf q = some r →
        (∀ em ∈ r.journal, em.event.Spares m) ∧
          ∀ es : List EventRecord, es.Sublist r.sent →
            (es.foldl Desktop.apply f.platform.desktop).isDown m.key = true) ∧
      ∀ (text : String) (o : SendOptions), (Request.send text o).Avoids m →
        ∀ us, us <+: Token.ofText o.raw text →
          m ∈ (f.upTo (Token.ofText o.raw text) o us).ledger.persistent := by
  have hf := h.lives hlife
  refine ⟨hf.persistent, hf.down, fun q hq r hr => ?_, fun text o hq us hus => ?_⟩
  · have hserves := hf.serves_runOf hq hr
    exact ⟨hserves.journal, fun es hes => hf.isDown_of_serves hserves hes⟩
  · exact (hf.outlasts_upTo hus.subset fun t ht => (hq t ht).2).persistent

/-- The Win key stays down through a text with a key of its own for Alt, on a desktop that then
begins to fail, through a click, and through that text again. -/
theorem persistent_stays_of_win :
    let b : Bench :=
      { Bench.new with desktop := { Desktop.new with down := KeySet.assign ∅ .lwin true } }
    let e : Engine Bench :=
      { Engine.new b {} with ledger := Ledger.empty.noteExplicit {lwin} .down false }
    let f : Engine Bench := e.serve (.send "{LAlt}" .plain)
    let failing : Desktop := { f.platform.desktop with failing := true }
    let g : Engine Bench := { f with platform := { f.platform with desktop := failing } }.serve
      (.click {})
    e.Persists lwin ∧ Lives lwin e g ∧
      lwin ∈ g.ledger.persistent ∧ Platform.isDown g.platform Modifier.lwin.key = true ∧
      ∀ em ∈ (g.sendRun (Token.ofText .notRaw "{LAlt}") .plain).journal, em.event.Spares lwin := by
  intro b e f failing g
  have h : e.Persists lwin := ⟨⟨rfl, rfl, rfl, rfl⟩, fun _ _ h => absurd h List.not_mem_nil,
    ⟨by decide, sidedKey_modifier lctrl⟩, by decide, by decide, by decide⟩
  have hts : Token.ofText .notRaw "{LAlt}" =
      [.key (.named (.key .lalt VirtualKey.lalt.scan)) (.press 1)] := by
    have hd : Token.directive? "LAlt\x7d".toList = some ("LAlt".toList, []) := by decide
    have ht : Directive.token true "LAlt".toList =
        .key (.named (.key .lalt VirtualKey.lalt.scan)) (.press 1) := by decide
    refine (Token.ofChars_directive (by decide) hd).trans ?_
    rw [ht, Token.ofChars]
  have hq : (Request.send "{LAlt}" .plain).Avoids lwin := by
    intro t ht
    obtain rfl := List.mem_singleton.mp (hts ▸ ht : t ∈ [_])
    exact ⟨sidedKey_modifier lalt, by decide⟩
  have hfail : ∀ f : Engine Bench, f.Persists lwin → Meanwhile lwin f
      { f with platform := { f.platform with
        desktop := { f.platform.desktop with failing := true } } } := fun f hf =>
    ⟨rfl, rfl, rfl, rfl, ⟨hf.plain.layout, hf.plain.altgrLayouts, hf.plain.chords,
      hf.plain.altgr⟩, hf.mask, hf.unheld⟩
  have hf : Lives lwin e f := Lives.start.serve hq
  have hlife : Lives lwin e g :=
    (hf.meanwhile (hfail f (h.lives hf))).serve (q := .click {}) trivial
  obtain ⟨hp, hd, hruns, -⟩ := persistent_stays h hlife
  have hrun : g.runOf (.send "{LAlt}" .plain) =
      some (g.sendRun (Token.ofText .notRaw "{LAlt}") .plain) := by
    have hne : ¬(Token.ofText SendOptions.plain.raw "{LAlt}").isEmpty = true := fun hnil => by
      cases hts.symm.trans (List.isEmpty_iff.mp hnil)
    exact if_neg hne
  exact ⟨h, hlife, hp, hd, (hruns _ hq _ hrun).1⟩

end Engine

end KeySynth
