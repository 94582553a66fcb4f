import KeySynth.Proofs.Engine.Recording
import KeySynth.Proofs.Engine.View

/-!
The backends agree.

A dry run waits for nothing and sends to a desktop that takes nothing. Without character codes and
moves a text reads nothing that its own events change, so in each mode it does what it does dry.
-/

namespace KeySynth

open Modifier

/-- The event without the side of its key. -/
def EventRecord.sideless : EventRecord → EventRecord
  | .key k => .key { k with vk := k.vk.neutral }
  | .mouse m => .mouse m
  | .delay ms => .delay ms

lemma EventRecord.carried_play (e : EventRecord) : e.carried .play = e.sideless := by
  cases e <;> rfl

lemma EventRecord.carried_of_ne_play {b : Backend} (h : b ≠ .play) (e : EventRecord) :
    e.carried b = e := by
  cases e <;> simp [carried, h]

/-- The mouse event does not move the cursor. -/
def MouseFlags.Stays (f : MouseFlags) : Prop := f.has .moveTo = false ∧ f.has .move = false

instance (f : MouseFlags) : Decidable f.Stays := inferInstanceAs (Decidable (_ ∧ _))

lemma Button.stays_events (b : Button) : b.events.down.Stays ∧ b.events.up.Stays := by
  cases b <;> decide

lemma Button.stays_wheel (b : Button) : b.wheel.Stays := by cases b <;> decide

/-- It does not move the cursor. -/
def EventRecord.Stays : EventRecord → Prop
  | .mouse m => m.flags.Stays
  | .key _ | .delay _ => True

namespace Desktop

/-- A desktop with the same layout and the same mouse that takes nothing. -/
def muted (d : Desktop) : Desktop :=
  { d with failing := true, down := ∅, toggled := ∅, clock := 0, log := .empty }

lemma muted_apply {e : EventRecord} (h : e.Stays) (d : Desktop) :
    (d.apply e).muted = d.muted := by
  cases e with
  | key k =>
    rw [apply_key]
    unfold applyKey
    split_ifs <;> rfl
  | mouse m =>
    rw [apply_mouse, applyMouse, h.1, h.2]
    rfl
  | delay ms => rfl

lemma muted_inject {e : EventRecord} (h : e.Stays) (d : Desktop) :
    (d.inject #[e]).2.muted = d.muted := by
  unfold inject
  split_ifs
  · rfl
  · have ht : (d.take .input #[e]).muted = (d.apply e).muted := rfl
    exact ht.trans (d.muted_apply h)

end Desktop

namespace Run

variable (r : Run Desktop)

/-- The same run with nothing to wait for and nothing that gets through. -/
def dry : Run Desktop :=
  { r with
    platform := r.platform.muted
    backend := .event
    delays := ⟨-1, -1, -1⟩
    ownWindow := false
    batch := none }

lemma dry_emit {e : EventRecord} (h : e.Stays) : (r.emit e).dry = r.dry.emit e := by
  have hcarried : (e.carried r.backend).Stays := by cases e <;> exact h
  have hmuted : (r.emit e).platform.muted = r.platform.muted := by
    cases hb : r.batch with
    | some b => rw [platform_emit_of_some hb]
    | none =>
      rcases platform_emit_of_none hb e with hp | hp <;> rw [hp]
      · exact Desktop.muted_inject hcarried _
      · exact Desktop.muted_inject hcarried _
  have hdry : r.dry.emit e = { r.dry with
      journal := ⟨e, r.ledger.logical⟩ :: r.journal
      ledger := r.ledger.note r.altgr e
      pointer := e.destination?.or r.pointer } := rfl
  obtain ⟨p, b, he⟩ := r.emit_eq e
  rw [hdry, dry, hmuted, he]
  rfl

lemma dry_pause (p : Pause) : (r.pause p).dry = r.dry := by
  cases p with
  | mark ms =>
    unfold Run.pause emitMark
    dsimp only
    split <;> rfl
  | none | sleep ms | wait ms => rfl

lemma view_dry : View dry where
  seen _ := rfl
  fault _ := rfl
  keyAt _ _ := rfl
  scanOf _ _ := rfl
  chord _ _ := rfl
  emit r _ := r.dry_emit trivial
  keyPause r := r.dry_pause _
  pressPause r := r.dry_pause _
  settle r := by
    change _ = r.dry
    split_ifs
    · rfl
    · exact r.dry_pause _
  noteExplicit _ _ e := by cases e <;> rfl
  keyMods _ _ := rfl
  raw _ _ := rfl
  fail _ _ := rfl

lemma dry_press (b : Button) (p : Point) : (r.press b p).dry = r.dry.press b p :=
  (dry_pause _ _).trans (r.dry_emit b.stays_events.1)

lemma dry_release (b : Button) (p : Point) : (r.release b p).dry = r.dry.release b p :=
  (dry_pause _ _).trans (r.dry_emit b.stays_events.2)

/-- A click where the cursor is moves nothing. -/
lemma dry_click {spec : ClickSpec} (h : spec.x = none ∨ spec.y = none) :
    (r.click spec).dry = r.dry.click spec := by
  have hstay : ∀ s : Run Desktop, s.click spec = if spec.count = 0 then s
      else if spec.button.isWheel then s.turnWheel spec.button spec.count
      else s.clickButton (s.physicalButton spec.button) spec.count spec.action := by
    intro s
    unfold click
    rcases h with h | h
    · simp [h]
    · cases spec.x <;> simp [h]
  rw [hstay, hstay]
  split_ifs
  · rfl
  · unfold turnWheel
    split
    · exact (dry_pause _ _).trans (r.dry_emit spec.button.stays_wheel)
    · rfl
  · unfold clickButton
    cases spec.action with
    | down => exact r.dry_press _ _
    | up => exact r.dry_release _ _
    | downUp =>
      refine View.iterate (fun s => ?_) spec.count r
      rw [dry_release, dry_press]
      rfl

end Run

/-- The same options with a mode of their own. -/
def SendOptions.via (o : SendOptions) (m : SendMode) : SendOptions := { o with mode := some m }

namespace Engine

variable {e : Engine Desktop} {ts : List Token} {o : SendOptions}

/-- What a text comes to does not depend on the way it is sent. -/
lemma dry_typed (hasc : ∀ digits, .asc digits ∉ ts)
    (hclick : ∀ spec, .click spec ∈ ts → spec.x = none ∨ spec.y = none) (m n : SendMode) :
    (e.typed ts (o.via m)).dry = (e.typed ts (o.via n)).dry := by
  have hnone : ∀ digits, .asc digits ∈ ts →
      ∀ r : Run Desktop, (r.sendAsc digits).dry = r.dry.sendAsc digits := fun digits hd =>
    absurd hd (hasc digits)
  have hclicks : ∀ t ∈ ts, ∀ spec, Run.View.Clicks spec t →
      ∀ r : Run Desktop, (r.click spec).dry = r.dry.click spec := by
    intro t ht spec hs r
    match t with
    | .click s => exact r.dry_click (hs ▸ hclick s ht)
    | .key (.named (.mouse b)) action => exact r.dry_click (.inl (by rw [← hs]; rfl))
  have hopened : (e.opened ts (o.via m)).dry = (e.opened ts (o.via n)).dry := rfl
  have hcaps : (e.opened ts (o.via m)).storesCapsLock =
      (e.opened ts (o.via n)).storesCapsLock := rfl
  have hstore : (e.opened ts (o.via m)).storeCapsLock.dry =
      (e.opened ts (o.via n)).storeCapsLock.dry := by
    unfold Run.storeCapsLock
    rw [hcaps]
    split_ifs
    · rw [Run.view_dry.tapLock, Run.view_dry.tapLock, hopened]
    · exact hopened
  rw [typed, typed, Run.view_dry.putBack, Run.view_dry.putBack, hcaps, upTo, upTo,
    Run.view_dry.interpret hnone hclicks, Run.view_dry.interpret hnone hclicks, hstore]

/-- What is recorded of a send, by the journal that it would have in any mode. -/
lemma recorded_via (hworks : e.platform.failing = false)
    (hasc : ∀ digits, .asc digits ∉ ts)
    (hclick : ∀ spec, .click spec ∈ ts → spec.x = none ∨ spec.y = none) (m : SendMode)
    {n : SendMode} (hfault : (e.upTo ts (o.via m) ts).fault = none) (hfits : e.Fits ts (o.via n)) :
    (e.sendRun ts (o.via n)).platform.log.events = e.platform.log.events ++
        (((e.typed ts (o.via m)).journal.reverse.map (·.event)).map
          (·.carried (e.backendFor (o.via n)))).toArray ∧
      (e.sendRun ts (o.via n)).ledger = (e.typed ts (o.via m)).ledger := by
  have hdry : (e.typed ts (o.via n)).dry = (e.typed ts (o.via m)).dry := dry_typed hasc hclick n m
  have hjournal : (e.typed ts (o.via n)).journal = (e.typed ts (o.via m)).journal :=
    congrArg (·.journal) hdry
  have hfaults : (e.typed ts (o.via n)).fault = (e.typed ts (o.via m)).fault :=
    congrArg (·.fault) hdry
  have hkept : ∀ k, (e.typed ts (o.via k)).fault = (e.upTo ts (o.via k) ts).fault := fun _ =>
    congrArg (·.fault) (Run.flows_putBack _ _).still
  have hback : (e.typed ts (o.via n)).backend = e.backendFor (o.via n) :=
    Run.fixed_backend fixed_typed
  obtain ⟨hevents, hledger, -⟩ := recorded hworks hfits
    ((hkept n).symm.trans (hfaults.trans ((hkept m).trans hfault)))
  rw [hevents, hledger, Run.sent, hback, hjournal, List.map_map]
  exact ⟨rfl, congrArg (·.ledger) hdry⟩

/-- **The backends agree.** A text without character codes and without moves, sent with no fault and
with room for all of it, is recorded as the same events in Event and in Input mode and in Play mode
without the sides of its keys, and the ledger ends up with the same modifiers. -/
theorem backends_agree {e : Engine Desktop} {text : String} {o : SendOptions}
    (hhooks : e.platform.foreignHooks = false) (hworks : e.platform.failing = false)
    (hasc : ∀ digits, .asc digits ∉ Token.ofText o.raw text)
    (hclick : ∀ spec, .click spec ∈ Token.ofText o.raw text → spec.x = none ∨ spec.y = none)
    (hok : (e.send text (o.via .event)).1 = .ok ())
    (hinput : e.Fits (Token.ofText o.raw text) (o.via .input))
    (hplay : e.Fits (Token.ofText o.raw text) (o.via .play)) :
    ∃ es : List EventRecord,
      (e.send text (o.via .event)).2.platform.log.events = e.platform.log.events ++ es.toArray ∧
      (e.send text (o.via .input)).2.platform.log.events = e.platform.log.events ++ es.toArray ∧
      (e.send text (o.via .play)).2.platform.log.events =
        e.platform.log.events ++ (es.map (·.sideless)).toArray ∧
      (e.send text (o.via .input)).2.ledger.toHolds =
        (e.send text (o.via .event)).2.ledger.toHolds ∧
      (e.send text (o.via .play)).2.ledger.toHolds =
        (e.send text (o.via .event)).2.ledger.toHolds := by
  set ts := Token.ofText o.raw text with hts
  have hsend : ∀ m, e.send text (o.via m) =
      if ts.isEmpty then (.ok (), e) else (e.sendRun ts (o.via m)).outcome := fun _ => rfl
  by_cases hemp : ts.isEmpty = true
  · refine ⟨[], ?_⟩
    simp only [hsend, if_pos hemp]
    simp
  · simp only [hsend, if_neg hemp] at hok ⊢
    have hfault : (e.upTo ts (o.via .event) ts).fault = none := by
      rwa [Run.outcome_eq_ok, sendRun_eq, Run.fault_leave] at hok
    have hroom : e.Fits ts (o.via .event) := fits_of_event rfl ts
    have hway : e.backendFor (o.via .event) = .event ∧ e.backendFor (o.via .input) = .input ∧
        e.backendFor (o.via .play) = .play := by
      refine ⟨rfl, ?_, rfl⟩
      change (if e.platform.foreignHooks then Backend.event else .input) = .input
      rw [hhooks]
      rfl
    obtain ⟨hev, hle⟩ := recorded_via hworks hasc hclick .event hfault hroom
    obtain ⟨hei, hli⟩ := recorded_via hworks hasc hclick .event hfault hinput
    obtain ⟨hep, hlp⟩ := recorded_via hworks hasc hclick .event hfault hplay
    have hid : ∀ b, b ≠ Backend.play → (fun ev : EventRecord => ev.carried b) = id := fun b hb =>
      funext (EventRecord.carried_of_ne_play hb)
    rw [hway.1, hid _ (by decide), List.map_id] at hev
    rw [hway.2.1, hid _ (by decide), List.map_id] at hei
    rw [hway.2.2, funext EventRecord.carried_play] at hep
    exact ⟨_, hev, hei, hep, by rw [Run.outcome, Run.outcome, hli, hle],
      by rw [Run.outcome, Run.outcome, hlp, hle]⟩

/-- Control and a letter, each way. -/
theorem backends_agree_of_ctrl :
    let e := Engine.new Desktop.new {}
    ∃ es : List EventRecord,
      (e.send "^a" (SendOptions.plain.via .event)).2.platform.log.events =
        e.platform.log.events ++ es.toArray ∧
      (e.send "^a" (SendOptions.plain.via .input)).2.platform.log.events =
        e.platform.log.events ++ es.toArray ∧
      (e.send "^a" (SendOptions.plain.via .play)).2.platform.log.events =
        e.platform.log.events ++ (es.map (·.sideless)).toArray ∧
      (e.send "^a" (SendOptions.plain.via .input)).2.ledger.toHolds =
        (e.send "^a" (SendOptions.plain.via .event)).2.ledger.toHolds ∧
      (e.send "^a" (SendOptions.plain.via .play)).2.ledger.toHolds =
        (e.send "^a" (SendOptions.plain.via .event)).2.ledger.toHolds := by
  have hts : Token.ofText .notRaw "^a" = [.modifier lctrl, .char 'a'] := by
    simp [Token.ofText, Token.ofChars, Token.ofChar, ofSymbol?]
  have hfits : ∀ m, (Engine.new Desktop.new {}).Fits (Token.ofText .notRaw "^a")
      (SendOptions.plain.via m) := by
    rw [hts]
    intro m
    cases m <;> decide
  refine backends_agree (o := .plain) rfl rfl (fun digits h => ?_) (fun spec h => ?_)
    (by decide +kernel) (hfits _) (hfits _)
  · change _ ∈ Token.ofText .notRaw "^a" at h
    simp [hts] at h
  · change _ ∈ Token.ofText .notRaw "^a" at h
    simp [hts] at h

end Engine

end KeySynth
