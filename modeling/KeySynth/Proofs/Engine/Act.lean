import Mathlib.Data.List.Induction
import KeySynth.Proofs.Engine.Course

/-!
What a token comes to.

A token does what it does in a course; what it changes in the session it changes when its course is
over, and `act_eq` says what that is.
-/

namespace KeySynth

open Modifier

/-- A wheel that is to turn too far. -/
def ClickSpec.fault? (spec : ClickSpec) : Option Fault :=
  if spec.count ≠ 0 ∧ spec.button.isWheel = true ∧ spec.button.wheelTurn? spec.count = none then
    some (.invalidValue .count (toString spec.count))
  else none

/-- What is clicked by a directive that names a button like a key. -/
def ClickSpec.ofKey (b : Button) (action : KeyAction) : ClickSpec :=
  { button := b, count := action.turns, action := Run.clickAction action }

namespace Token

/-- The fault that a token meets, on any platform. -/
def fault? : Token → Option Fault
  | click spec => spec.fault?
  | key (.named (.mouse b)) action => (ClickSpec.ofKey b action).fault?
  | invalidUnicode directive => some (.invalidUnicode directive)
  | _ => none

/-- The modifiers asked for once a token is over. -/
def modsAfter (persistent mods : Mask) : Token → Mask
  | modifier m => if persistent.meets (Mask.classes {m}) then mods else mods ∪ {m}
  | blind _ | raw | text | invalidUnicode _ => mods
  | _ => ∅

end Token

/-- What an action on a modifier key says of the modifier. -/
def KeyAction.explicit? : KeyAction → Option Explicit
  | down => some .down
  | downRemap => some .downRemapped
  | up => some .up
  | downTemp | press _ => none

namespace Run

variable {P : Type} [Platform P] {K : StrokeLaw} (r : Run P)

/-- The key that a directive names. -/
def resolved (vk : VirtualKey) (sc : ScanCode) : VirtualKey :=
  if vk = 0 then Platform.keyAt r.platform sc r.layout else vk

/-- What a token says of a modifier. -/
def explicit? : Token → Option (Modifier × Explicit)
  | .key (.named (.key vk sc)) action =>
    (ofKey? (r.resolved vk sc)).bind fun m => action.explicit?.map fun e => (m, e)
  | _ => none

omit [Platform P] in
/-- What has been said of a modifier is noted. -/
def noteIf : Option (Modifier × Explicit) → Run P
  | some (m, e) => r.noteExplicit m e
  | none => r

/-- What a token says and does is over. -/
def conclude (t : Token) (said : Option (Modifier × Explicit)) : Run P :=
  { r.noteIf said with
    raw := t.rawAfter r.raw
    keyMods := t.modsAfter r.ledger.persistent r.keyMods
    fault := t.fault?.or r.fault }

omit [Platform P] in
/-- Nothing of that has to do with what is down. -/
lemma conclude_eq (t : Token) (said : Option (Modifier × Explicit)) :
    ∃ l mode base mods f, l.logical = r.ledger.logical ∧ r.conclude t said =
      { r with ledger := l, raw := mode, blindBase := base, keyMods := mods, fault := f } := by
  match said with
  | none => exact ⟨r.ledger, _, r.blindBase, _, _, rfl, rfl⟩
  | some (m, e) =>
    refine ⟨r.ledger.noteExplicit {m} e r.blind, _, _, _, _, ?_, rfl⟩
    cases e <;> rfl

lemma click_eq (spec : ClickSpec) :
    ∃ s, Course K r s ∧ r.click spec = { s with fault := spec.fault?.or s.fault } := by
  have moved : ∀ s, Course K r s → ∃ t, Course K r t ∧
      (if spec.count = 0 then s
        else if spec.button.isWheel then s.turnWheel spec.button spec.count
        else s.clickButton (s.physicalButton spec.button) spec.count spec.action) =
      { t with fault := spec.fault?.or t.fault } := by
    intro s hs
    unfold ClickSpec.fault?
    by_cases h0 : spec.count = 0
    · exact ⟨s, hs, by simp [h0]⟩
    by_cases hw : spec.button.isWheel = true
    · cases ht : spec.button.wheelTurn? spec.count with
      | none => exact ⟨s, hs, by simp [h0, hw, turnWheel, ht, fail]⟩
      | some d =>
        refine ⟨_, hs.trans (Course.mouse s spec.button.wheel d s.cursor).mousePause, ?_⟩
        simp [h0, hw, turnWheel, ht]
    · refine ⟨_, hs.trans (Course.clickButton (s.physicalButton spec.button) spec.count
        spec.action), ?_⟩
      simp [h0, hw]
  unfold click
  split
  · exact moved _ (Course.moveMouse ..)
  · exact moved r (.refl r)

section

variable {I : Run P → Prop} (hmouse : ∀ s m, I s → I (s.emit (.mouse m)))
  (hpause : ∀ s p, I s → I (s.pause p))
include hmouse hpause

lemma moveMouse_invariant {r : Run P} (hr : I r) (x y : Int) (speed : Option Int)
    (relative : Bool) : I (r.moveMouse x y speed relative) := by
  unfold moveMouse
  dsimp only
  split_ifs
  · exact hpause _ _ (hmouse _ _ hr)
  · exact List.foldlRecOn _ _ hr fun t ht _ _ => hpause _ _ (hmouse _ _ ht)

lemma drag_invariant {r : Run P} (hr : I r) (b : Button) (start : Option Point) (goal : Point)
    (speed : Option Int) (relative : Bool) : I (r.drag b start goal speed relative) := by
  have hrest : ∀ s : Run P, I s → ∀ b : Button,
      I (((s.press b s.cursor).moveMouse goal.x goal.y speed relative).release b
        ((s.press b s.cursor).moveMouse goal.x goal.y speed relative).cursor) := fun s hs b =>
    hpause _ _ (hmouse _ _ (moveMouse_invariant hmouse hpause (hpause _ _ (hmouse _ _ hs)) _ _ _ _))
  unfold drag
  dsimp only
  split
  · exact hrest _ (moveMouse_invariant hmouse hpause hr _ _ _ _) _
  · exact hrest r hr _

/-- What mouse events, pauses and faults keep is kept by a click. -/
lemma click_invariant (hfail : ∀ s f, I s → I (s.fail f)) {r : Run P} (hr : I r)
    (spec : ClickSpec) : I (r.click spec) := by
  have hclick : ∀ s b n action, I s → I (s.clickButton b n action) := by
    intro s b n action hs
    cases action with
    | down => exact hpause _ _ (hmouse _ _ hs)
    | up => exact hpause _ _ (hmouse _ _ hs)
    | downUp =>
      induction n with
      | zero => exact hs
      | succ n ih => exact hpause _ _ (hmouse _ _ (hpause _ _ (hmouse _ _ ih)))
  have hturn : ∀ s b n, I s → I (s.turnWheel b n) := by
    intro s b n hs
    unfold turnWheel
    split
    · exact hpause _ _ (hmouse _ _ hs)
    · exact hfail _ _ hs
  have hrest : ∀ s, I s → I (if spec.count = 0 then s
      else if spec.button.isWheel then s.turnWheel spec.button spec.count
      else s.clickButton (s.physicalButton spec.button) spec.count spec.action) := by
    intro s hs
    split_ifs
    · exact hs
    · exact hturn s _ _ hs
    · exact hclick s _ _ _ hs
  unfold click
  split
  · exact hrest _ (moveMouse_invariant hmouse hpause hr _ _ _ _)
  · exact hrest r hr

end

lemma sendModifierKey_eq {vk : VirtualKey} {sc : ScanCode} {action : KeyAction}
    (hK : K action.motion vk sc) (m : Modifier) :
    ∃ s, Course K r s ∧
      r.sendModifierKey m vk sc action = s.noteIf (action.explicit?.map fun e => (m, e)) := by
  refine ⟨_, .iterate (fun s => .turnModifier hK m) action.turns, ?_⟩
  cases action <;> rfl

lemma sendTarget_modifier {vk : VirtualKey} {sc : ScanCode} {m : Modifier}
    (h : ofKey? (r.resolved vk sc) = some m) (action : KeyAction) :
    r.sendTarget (.named (.key vk sc)) action =
      r.sendModifierKey m (r.resolved vk sc) sc action := by
  unfold resolved at h ⊢
  simp only [sendTarget, h]

lemma sendTarget_key {vk : VirtualKey} {sc : ScanCode} (h : ofKey? (r.resolved vk sc) = none)
    (action : KeyAction) :
    r.sendTarget (.named (.key vk sc)) action =
      r.sendKey (r.resolved vk sc) sc r.keyMods action.motion action.turns := by
  unfold resolved at h ⊢
  simp only [sendTarget, h]

/-- **What a token does is a course**; the rest of the session is told by the token. -/
theorem act_eq {t : Token} (hK : Strokes P K t) :
    ∃ s, Course K r s ∧ r.act t = s.conclude t (r.explicit? t) := by
  cases t with
  | modifier m =>
    refine ⟨r, .refl r, ?_⟩
    unfold act addMod conclude Token.modsAfter
    dsimp only
    split_ifs <;> rfl
  | char c => exact ⟨_, Course.sendChar hK r c, rfl⟩
  | key target action =>
    match target with
    | .char c => exact ⟨_, .iterate (fun s => Course.sendChar hK s c) action.turns, rfl⟩
    | .named (.mouse b) =>
      obtain ⟨s, hs, he⟩ := r.ready.click_eq (K := K) (ClickSpec.ofKey b action)
      refine ⟨s, ((Course.refl r).reconcile _ _).trans hs, ?_⟩
      exact congrArg clearMods he
    | .named (.key vk sc) =>
      have hk := hK r.platform r.layout
      change K action.motion (r.resolved vk sc) sc at hk
      rw [explicit?, act]
      cases hm : ofKey? (r.resolved vk sc) with
      | some m =>
        obtain ⟨s, hs, he⟩ := r.sendModifierKey_eq hk m
        rw [r.sendTarget_modifier hm, he]
        refine ⟨s, hs, ?_⟩
        cases action <;> rfl
      | none =>
        rw [r.sendTarget_key hm]
        exact ⟨_, Course.sendKey hk r.keyMods action.turns, rfl⟩
  | click spec =>
    obtain ⟨s, hs, he⟩ := r.ready.click_eq (K := K) spec
    exact ⟨s, ((Course.refl r).reconcile _ _).trans hs, congrArg clearMods he⟩
  | raw => exact ⟨r, .refl r, rfl⟩
  | text => exact ⟨r, .refl r, rfl⟩
  | blind _ => exact ⟨r, .refl r, rfl⟩
  | asc digits => exact ⟨_, Course.sendAsc hK r, rfl⟩
  | unicode cp => exact ⟨_, Course.sendCodePoint cp .downUp, rfl⟩
  | invalidUnicode _ => exact ⟨r, .refl r, rfl⟩
  | unknown _ => exact ⟨r, .refl r, rfl⟩

/-- What each token keeps is kept by a text. -/
theorem interpret_invariant {I : Run P → Prop} {ts : List Token}
    (hact : ∀ r : Run P, ∀ t ∈ ts, I r → I (r.act t)) {r : Run P} (hr : I r) :
    I (r.interpret ts) := by
  induction ts generalizing r with
  | nil => exact hr
  | cons t ts ih =>
    refine ih (fun r u hu => hact r u (by simp [hu])) ?_
    unfold step
    split_ifs
    · exact hr
    · exact hact r t (by simp) hr

/-- While no fault ends the text its tokens are done one after the other. -/
theorem interpret_induction {I : List Token → Run P → Prop} (hr : I [] r)
    (hact : ∀ us t s, I us s → I (us ++ [t]) (s.act t)) {ts : List Token}
    (hf : (r.interpret ts).fault = none) : I ts (r.interpret ts) := by
  induction ts using List.reverseRecOn with
  | nil => exact hr
  | append_singleton us t ih =>
    have hsnoc : r.interpret (us ++ [t]) = (r.interpret us).step t := r.interpret_append us [t]
    rw [hsnoc] at hf ⊢
    by_cases hq : (r.interpret us).fault.isSome = true
    · rw [step, if_pos hq] at hf
      rw [hf] at hq
      cases hq
    · rw [step, if_neg hq]
      exact hact us t _ (ih (by simpa using hq))

/-! ### What no token touches -/

lemma strokes_any (t : Token) : Strokes P (fun _ _ _ => True) t := by
  have hc : ∀ motion, CharStrokes P (fun _ _ _ => True) motion := fun _ =>
    ⟨trivial, trivial, fun _ _ _ _ _ => trivial⟩
  match t with
  | .char c => exact hc _
  | .key (.char c) a => exact hc _
  | .key (.named (.key vk sc)) a => exact fun _ _ => trivial
  | .asc ds => exact fun _ _ => trivial
  | .key (.named (.mouse b)) a => trivial
  | .modifier _ | .click _ | .raw | .text | .blind _ | .unicode _ | .invalidUnicode _
  | .unknown _ => trivial

omit [Platform P] in
/-- The part of a run that no token touches. -/
def fixed : Run Unit :=
  { r.still with ledger := .empty, raw := .notRaw, blindBase := ∅, keyMods := ∅, fault := none }

omit [Platform P] in
lemma fixed_maskKey {r s : Run P} (h : s.fixed = r.fixed) : s.maskKey = r.maskKey :=
  congrArg (·.maskKey) h

omit [Platform P] in
lemma fixed_backend {r s : Run P} (h : s.fixed = r.fixed) : s.backend = r.backend :=
  congrArg (·.backend) h

omit [Platform P] in
lemma fixed_altgr {r s : Run P} (h : s.fixed = r.fixed) : s.altgr = r.altgr :=
  congrArg (·.altgr) h

omit [Platform P] in
lemma fixed_estimate {r s : Run P} (h : s.fixed = r.fixed) : s.estimate = r.estimate :=
  congrArg (·.estimate) h

omit [Platform P] in
lemma fixed_blind {r s : Run P} (h : s.fixed = r.fixed) : s.blind = r.blind :=
  congrArg (·.blind) h

omit [Platform P] in
lemma fixed_of_still {r s : Run P} (h : s.still = r.still) : s.fixed = r.fixed := by
  rw [fixed, fixed, h]

omit [Platform P] in
lemma fixed_conclude (t : Token) (said : Option (Modifier × Explicit)) :
    (r.conclude t said).fixed = r.fixed := by
  obtain ⟨l, mode, base, mods, f, -, he⟩ := r.conclude_eq t said
  rw [he]
  rfl

lemma fixed_act (t : Token) : (r.act t).fixed = r.fixed := by
  obtain ⟨s, hs, he⟩ := r.act_eq (strokes_any t)
  rw [he, fixed_conclude, fixed_of_still hs.still]

lemma fixed_interpret (ts : List Token) : (r.interpret ts).fixed = r.fixed :=
  interpret_invariant (I := fun s => s.fixed = r.fixed)
    (fun s t _ hs => (s.fixed_act t).trans hs) rfl

lemma batch_act {t : Token} (hb : r.batch = none) : (r.act t).batch = none := by
  obtain ⟨s, hs, he⟩ := r.act_eq (strokes_any t)
  obtain ⟨l, mode, base, mods, f, -, hc⟩ := s.conclude_eq t (r.explicit? t)
  rw [he, hc]
  exact hs.flows_any.batch_eq_none hb

/-! ### Before the first token and after the last -/

lemma Course.tapLock {s : Run P} {vk : VirtualKey} (hK : K .downUp vk 0) (h : Course K r s) :
    Course K r (s.tapLock vk) :=
  (h.trans (.stroke s hK)).keyPause

lemma Course.storeCapsLock (hK : K .downUp .capsLock 0) : Course K r r.storeCapsLock := by
  unfold Run.storeCapsLock
  split_ifs
  · exact .tapLock r hK (.refl r)
  · exact .refl r

lemma Course.putBack (hK : K .downUp .capsLock 0) (capsLock : Bool) :
    Course K r (r.putBack capsLock) := by
  have h := (Course.refl (K := K) r).reconcile r.restored .both
  unfold Run.putBack
  split_ifs
  · exact .tapLock r hK h
  · exact h

lemma flows_storeCapsLock : Flows (fun _ => True) r r.storeCapsLock :=
  (Course.storeCapsLock (K := fun _ _ _ => True) r trivial).flows_any

lemma flows_putBack (capsLock : Bool) : Flows (fun _ => True) r (r.putBack capsLock) :=
  (Course.putBack (K := fun _ _ _ => True) r trivial capsLock).flows_any

/-- Sending the batch, or dropping it, touches nothing of a session but the batch. -/
lemma flush_eq : ∃ p l b, r.flush = { r with platform := p, ledger := l, batch := b } := by
  unfold flush
  split
  · exact ⟨r.platform, r.ledger, r.batch, rfl⟩
  · dsimp only
    split_ifs
    · exact ⟨_, _, _, rfl⟩
    · exact ⟨_, _, _, rfl⟩
    · split <;> exact ⟨_, _, _, rfl⟩
    · split
      · split_ifs <;> exact ⟨_, _, _, rfl⟩
      · exact ⟨_, _, _, rfl⟩

omit [Platform P] in
lemma discard_eq : ∃ p l b, r.discard = { r with platform := p, ledger := l, batch := b } := by
  unfold discard
  split
  · exact ⟨r.platform, r.ledger, r.batch, rfl⟩
  · exact ⟨_, _, _, rfl⟩

lemma leave_eq (capsLock : Bool) : ∃ s p l b, (s = r ∨ s = r.putBack capsLock) ∧
    r.leave capsLock = { s with platform := p, ledger := l, batch := b } := by
  unfold leave
  split_ifs
  · obtain ⟨p, l, b, h⟩ := r.discard_eq
    exact ⟨r, p, l, b, .inl rfl, h⟩
  · obtain ⟨p, l, b, h⟩ := (r.putBack capsLock).flush_eq
    exact ⟨_, p, l, b, .inr rfl, h⟩

lemma fixed_leave (capsLock : Bool) : (r.leave capsLock).fixed = r.fixed := by
  obtain ⟨s, p, l, b, hs, he⟩ := r.leave_eq capsLock
  have hend : (r.leave capsLock).fixed = s.fixed := by
    rw [he]
    rfl
  rcases hs with rfl | rfl
  · exact hend
  · exact hend.trans (fixed_of_still (r.flows_putBack capsLock).still)

end Run

namespace Engine

variable {P : Type} [Platform P]

/-- The way a send's events travel. -/
def backendFor (e : Engine P) (o : SendOptions) : Backend :=
  (o.mode.getD e.settings.sendMode).resolve (Platform.foreignHooks e.platform)

lemma batch_opened (e : Engine P) (ts : List Token) (o : SendOptions) :
    (e.opened ts o).batch = if (e.backendFor o).isBatch then
      some (.new (e.backendFor o).ceiling e.resync.ledger.snapshot) else none := rfl

lemma batch_opened_of_event {e : Engine P} {o : SendOptions} (h : e.backendFor o = .event)
    (ts : List Token) : (e.opened ts o).batch = none := by
  rw [batch_opened, h]
  rfl

/-- The run of a text when its tokens `us` are over. -/
def upTo (e : Engine P) (ts : List Token) (o : SendOptions) (us : List Token) : Run P :=
  (e.opened ts o).storeCapsLock.interpret us

/-- The run of a text when everything has been put back and the batch is still to be sent. -/
def typed (e : Engine P) (ts : List Token) (o : SendOptions) : Run P :=
  (e.upTo ts o ts).putBack (e.opened ts o).storesCapsLock

lemma sendRun_eq (e : Engine P) (ts : List Token) (o : SendOptions) :
    e.sendRun ts o = (e.upTo ts o ts).leave (e.opened ts o).storesCapsLock := rfl

lemma fixed_upTo (e : Engine P) (ts : List Token) (o : SendOptions) (us : List Token) :
    (e.upTo ts o us).fixed = (e.opened ts o).fixed :=
  (Run.fixed_interpret _ us).trans (Run.fixed_of_still (Run.flows_storeCapsLock _).still)

lemma fixed_sendRun (e : Engine P) (ts : List Token) (o : SendOptions) :
    (e.sendRun ts o).fixed = (e.opened ts o).fixed :=
  (Run.fixed_leave _ _).trans (e.fixed_upTo ts o ts)

lemma altgr_sendRun (e : Engine P) (ts : List Token) (o : SendOptions) :
    (e.sendRun ts o).altgr = (e.opened ts o).altgr := Run.fixed_altgr (e.fixed_sendRun ts o)

end Engine

end KeySynth
