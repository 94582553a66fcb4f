import KeySynth.Proofs.Engine.Act

/-!
Views of a run.

A view takes runs on one platform to runs on another and keeps what keys read. If it goes along with
single key events and pauses it goes along with all that keys do, and if it keeps what tokens say
and ask for as well, with whole texts.
-/

namespace KeySynth

open Modifier

namespace Run

variable {P Q : Type}

/-- The part of a run that keys read. -/
def seen (r : Run P) : Run Unit :=
  { r with
    platform := ()
    backend := .event
    delays := ⟨0, 0, 0⟩
    ownWindow := false
    batch := none
    pointer := none
    fault := none
    journal := [] }

variable [Platform P] [Platform Q]

/-- What keys and pauses do can be told from the view of a run. -/
structure KeyView (φ : Run P → Run Q) : Prop where
  seen (r : Run P) : (φ r).seen = r.seen
  keyAt (r : Run P) (sc : ScanCode) :
    Platform.keyAt (φ r).platform sc (φ r).layout = Platform.keyAt r.platform sc r.layout
  scanOf (r : Run P) (vk : VirtualKey) :
    Platform.scanOf (φ r).platform vk (φ r).layout = Platform.scanOf r.platform vk r.layout
  emit (r : Run P) (k : KeyRecord) : φ (r.emit (.key k)) = (φ r).emit (.key k)
  keyPause (r : Run P) : φ r.keyPause = (φ r).keyPause
  pressPause (r : Run P) : φ r.pressPause = (φ r).pressPause
  settle (r : Run P) : φ (if r.backend = .input then r else r.pressPause) =
    if (φ r).backend = .input then φ r else (φ r).pressPause

/-- So can what tokens say and ask for. -/
structure View (φ : Run P → Run Q) : Prop extends KeyView φ where
  fault (r : Run P) : (φ r).fault = r.fault
  chord (r : Run P) (c : Char) :
    Platform.chord? (φ r).platform c (φ r).layout = Platform.chord? r.platform c r.layout
  noteExplicit (r : Run P) (m : Modifier) (e : Explicit) :
    φ (r.noteExplicit m e) = (φ r).noteExplicit m e
  keyMods (r : Run P) (mods : Mask) : φ { r with keyMods := mods } = { φ r with keyMods := mods }
  raw (r : Run P) (mode : RawMode) : φ { r with raw := mode } = { φ r with raw := mode }
  fail (r : Run P) (f : Fault) : φ (r.fail f) = (φ r).fail f

namespace KeyView

variable {φ : Run P → Run Q} (v : KeyView φ)
include v

lemma ledger (r : Run P) : (φ r).ledger = r.ledger := congrArg (·.ledger) (v.seen r)
lemma maskKey (r : Run P) : (φ r).maskKey = r.maskKey := congrArg (·.maskKey) (v.seen r)
lemma altgr (r : Run P) : (φ r).altgr = r.altgr := congrArg (·.altgr) (v.seen r)
lemma tag (r : Run P) : (φ r).tag = r.tag := congrArg (·.tag) (v.seen r)
lemma blind (r : Run P) : (φ r).blind = r.blind := congrArg (·.blind) (v.seen r)
lemma raw_eq (r : Run P) : (φ r).raw = r.raw := congrArg (·.raw) (v.seen r)
lemma keyMods_eq (r : Run P) : (φ r).keyMods = r.keyMods := congrArg (·.keyMods) (v.seen r)
lemma blindBase (r : Run P) : (φ r).blindBase = r.blindBase := congrArg (·.blindBase) (v.seen r)
lemma estimate (r : Run P) : (φ r).estimate = r.estimate := congrArg (·.estimate) (v.seen r)

lemma kept (r : Run P) : (φ r).kept = r.kept := by rw [Run.kept, Run.kept, v.ledger, v.blindBase]

lemma wanted (r : Run P) : (φ r).wanted = r.wanted := by
  rw [Run.wanted, Run.wanted, v.ledger, v.keyMods_eq, v.blindBase]

lemma restored (r : Run P) : (φ r).restored = r.restored := by
  rw [Run.restored, Run.restored, v.ledger, v.estimate, v.blindBase]

/-! ### Keys -/

lemma keyEvent (r : Run P) (vk : VirtualKey) (sc : ScanCode) (up : Bool) (info : Tag) :
    (φ r).keyEvent vk sc up info = r.keyEvent vk sc up info := by
  simp only [Run.keyEvent, v.keyAt, v.scanOf]

lemma emitKey (r : Run P) (vk : VirtualKey) (sc : ScanCode) (up : Bool) (info : Tag) :
    φ (r.emitKey vk sc up info) = (φ r).emitKey vk sc up info := by
  rw [emitKey_eq, emitKey_eq, v.keyEvent]
  exact v.emit r _

lemma strike (r : Run P) (motion : KeyMotion) (vk : VirtualKey) (sc : ScanCode) :
    φ (r.strike motion vk sc) = (φ r).strike motion vk sc := by
  cases motion <;> simp only [Run.strike, v.emitKey, v.pressPause, v.tag]

lemma tapLock (r : Run P) (vk : VirtualKey) : φ (r.tapLock vk) = (φ r).tapLock vk := by
  rw [Run.tapLock, Run.tapLock, v.keyPause, v.strike]

lemma maskDown (r : Run P) : φ r.maskDown = (φ r).maskDown := by
  rw [Run.maskDown, Run.maskDown, v.emitKey, v.maskKey]

lemma maskUp (r : Run P) : φ r.maskUp = (φ r).maskUp := by
  rw [Run.maskUp, Run.maskUp, v.emitKey, v.maskKey]

lemma emitModifier (r : Run P) (m : Modifier) (up : Bool) :
    φ (r.emitModifier m up) = (φ r).emitModifier m up := by
  rw [Run.emitModifier, Run.emitModifier, v.emitKey, v.tag]

lemma maskHeld (r : Run P) : (φ r).maskHeld = r.maskHeld := by
  rw [Run.maskHeld, Run.maskHeld, v.ledger, v.maskKey]

lemma step (s : Playing P) (x : Step) :
    Playing.step ⟨φ s.run, s.skipped⟩ x = ⟨φ (s.step x).run, (s.step x).skipped⟩ := by
  cases x with
  | press m => simp only [Playing.step, v.emitModifier]
  | release m => simp only [Playing.step, v.emitModifier]
  | maskDown =>
    simp only [Playing.step, v.maskHeld]
    split_ifs
    · rfl
    · simp only [v.maskDown]
  | maskUp =>
    simp only [Playing.step]
    split_ifs
    · rfl
    · simp only [v.maskUp]

lemma playSteps (r : Run P) (steps : List Step) :
    φ (r.playSteps steps) = (φ r).playSteps steps :=
  (congrArg (·.run) (List.foldl_hom (fun s : Playing P => Playing.mk (φ s.run) s.skipped)
    fun s x => v.step s x)).symm

lemma reconcile (r : Run P) (desired : Mask) (w : Disguise) :
    φ (r.reconcile desired w) = (φ r).reconcile desired w := by
  unfold Run.reconcile
  simp only [v.ledger, v.altgr]
  split_ifs with he
  · rfl
  all_goals
    have hs := v.settle (r.playSteps (Plan.make desired r.ledger.logical r.altgr w).steps)
    rw [v.playSteps] at hs
    simp_all

lemma ready (r : Run P) : φ r.ready = (φ r).ready := by
  rw [Run.ready, Run.ready, v.reconcile, v.wanted]

lemma dropAdded (r : Run P) (mods : Mask) : φ (r.dropAdded mods) = (φ r).dropAdded mods := by
  unfold Run.dropAdded
  simp only [v.kept, v.ledger, v.altgr]
  split_ifs
  · exact v.reconcile r _ _
  · exact v.reconcile r _ _
  · rfl

lemma sendKeyOnce (r : Run P) (vk : VirtualKey) (sc : ScanCode) (mods : Mask)
    (motion : KeyMotion) : φ (r.sendKeyOnce vk sc mods motion) =
      (φ r).sendKeyOnce vk sc mods motion := by
  simp only [Run.sendKeyOnce, v.dropAdded, v.keyPause, v.strike, v.reconcile, v.kept]

lemma typeDigit (r : Run P) (c : Char) : φ (r.typeDigit c) = (φ r).typeDigit c := by
  rw [Run.typeDigit, Run.typeDigit, v.keyPause, v.strike]

/-- A character code looks at NumLock as well. -/
lemma sendAsc {r : Run P} (hlock : Platform.isToggled (φ r).platform .numLock =
    Platform.isToggled r.platform .numLock) (digits : String) :
    φ (r.sendAsc digits) = (φ r).sendAsc digits := by
  have halt : ∀ s : Run P, φ (s.reconcile (s.wanted ∪ {.lalt}) .upOnly) =
      (φ s).reconcile ((φ s).wanted ∪ {.lalt}) .upOnly := fun s => by
    rw [v.wanted, v.reconcile]
  have hdigits : ∀ s : Run P, φ (digits.toList.foldl Run.typeDigit s) =
      digits.toList.foldl Run.typeDigit (φ s) := fun s =>
    (List.foldl_hom φ fun s c => (v.typeDigit s c).symm).symm
  have hdone : ∀ s : Run P,
      φ (s.reconcile (s.ledger.logical \ ({.lalt} \ s.wanted)) .none) =
        (φ s).reconcile ((φ s).ledger.logical \ ({.lalt} \ (φ s).wanted)) .none := fun s => by
    rw [v.wanted, v.ledger, v.reconcile]
  unfold Run.sendAsc
  rw [hlock]
  dsimp only
  split_ifs
  · rw [v.tapLock, hdone, hdigits, halt, v.tapLock]
  · rw [hdone, hdigits, halt]

lemma putBack (r : Run P) (capsLock : Bool) :
    φ (r.putBack capsLock) = (φ r).putBack capsLock := by
  unfold Run.putBack
  rw [v.restored, ← v.reconcile]
  dsimp only
  split_ifs
  · exact v.tapLock ..
  · rfl

end KeyView

namespace View

variable {φ : Run P → Run Q} (v : View φ)
include v

/-! ### Repetition -/

omit [Platform P] [Platform Q] v in
lemma iterate {f : Run P → Run P} {g : Run Q → Run Q} (h : ∀ s, φ (f s) = g (φ s)) (n : Nat)
    (r : Run P) : φ (Nat.repeat f n r) = Nat.repeat g n (φ r) := by
  induction n with
  | zero => rfl
  | succ n ih => exact (h _).trans (congrArg g ih)

/-! ### Keys one after the other -/

lemma sendKey (r : Run P) (vk : VirtualKey) (sc : ScanCode) (mods : Mask) (motion : KeyMotion)
    (turns : Nat) : φ (r.sendKey vk sc mods motion turns) =
      (φ r).sendKey vk sc mods motion turns :=
  iterate (fun s => v.sendKeyOnce s vk sc mods motion) turns r

/-! ### Modifier keys -/

lemma releaseIsBare (r : Run P) (m : Modifier) : (φ r).releaseIsBare m = r.releaseIsBare m := by
  simp only [Run.releaseIsBare, v.ledger, v.altgr, v.blind]

lemma turnModifier (r : Run P) (m : Modifier) (vk : VirtualKey) (sc : ScanCode)
    (action : KeyAction) :
    φ (r.turnModifier m vk sc action) = (φ r).turnModifier m vk sc action := by
  simp only [Run.turnModifier, v.keyPause, v.strike, v.wanted, v.ledger, ← v.reconcile,
    v.releaseIsBare]
  split_ifs
  · simp only [v.maskUp, v.maskDown]
  · rfl

lemma sendModifierKey (r : Run P) (m : Modifier) (vk : VirtualKey) (sc : ScanCode)
    (action : KeyAction) :
    φ (r.sendModifierKey m vk sc action) = (φ r).sendModifierKey m vk sc action := by
  have h := iterate (φ := φ) (f := fun s => s.turnModifier m vk sc action)
    (g := fun s => s.turnModifier m vk sc action) (fun s => v.turnModifier s m vk sc action)
    action.turns r
  unfold Run.sendModifierKey
  cases action <;> simp only [← h, v.noteExplicit]

/-! ### Characters -/

lemma emitUnit (r : Run P) (unit : UInt16) (up : Bool) :
    φ (r.emitUnit unit up) = (φ r).emitUnit unit up := by
  rw [Run.emitUnit, Run.emitUnit, v.emit, v.tag]

lemma emitUnitMotion (r : Run P) (motion : KeyMotion) (unit : UInt16) :
    φ (r.emitUnitMotion motion unit) = (φ r).emitUnitMotion motion unit := by
  cases motion <;> simp only [Run.emitUnitMotion, v.emitUnit]

lemma sendCodePoint (r : Run P) (cp : Nat) (motion : KeyMotion) :
    φ (r.sendCodePoint cp motion) = (φ r).sendCodePoint cp motion := by
  unfold Run.sendCodePoint
  split_ifs
  · rw [v.keyPause, ← v.ready]
    exact congrArg Run.keyPause
      (List.foldl_hom φ fun s u => (v.emitUnitMotion s motion u).symm).symm
  · rfl

lemma chordMods (r : Run P) (mods : Mask) : (φ r).chordMods mods = r.chordMods mods := by
  simp only [Run.chordMods, v.altgr]

lemma sendChar (r : Run P) (c : Char) (motion : KeyMotion) :
    φ (r.sendChar c motion) = (φ r).sendChar c motion := by
  unfold Run.sendChar
  simp only [v.keyMods_eq, v.raw_eq, v.chord, v.chordMods]
  split_ifs
  · exact v.sendKey ..
  · exact v.sendKey ..
  · exact v.sendCodePoint ..
  · split
    · exact v.sendKey ..
    · exact v.sendCodePoint ..

/-! ### Tokens -/

lemma resolved (r : Run P) (vk : VirtualKey) (sc : ScanCode) :
    (φ r).resolved vk sc = r.resolved vk sc := by
  rw [Run.resolved, Run.resolved, v.keyAt]

/-- A click that a token comes to. -/
def Clicks (spec : ClickSpec) : Token → Prop
  | .click s => s = spec
  | .key (.named (.mouse b)) action => ClickSpec.ofKey b action = spec
  | _ => False

lemma addMod (r : Run P) (m : Modifier) : φ (r.addMod m) = (φ r).addMod m := by
  unfold Run.addMod
  rw [v.ledger, v.keyMods_eq, ← v.keyMods]
  split_ifs <;> rfl

/-- **A view goes along with every token**, character codes and clicks if it does so with those. -/
theorem act {t : Token}
    (hasc : ∀ digits, t = .asc digits → ∀ r : Run P, φ (r.sendAsc digits) = (φ r).sendAsc digits)
    (hclick : ∀ spec, Clicks spec t → ∀ r : Run P, φ (r.click spec) = (φ r).click spec)
    (r : Run P) : φ (r.act t) = (φ r).act t := by
  have hclear : ∀ s : Run P, φ s.clearMods = (φ s).clearMods := fun s => v.keyMods s ∅
  match t with
  | .blind _ => rfl
  | .raw => exact v.raw r _
  | .text => exact v.raw r _
  | .modifier m => exact v.addMod r m
  | .char c => exact (hclear _).trans (congrArg clearMods (v.sendChar r c _))
  | .key (.char c) action =>
    refine (hclear _).trans (congrArg clearMods ?_)
    exact iterate (fun s => v.sendChar s c action.motion) action.turns r
  | .key (.named (.mouse b)) action =>
    refine (hclear _).trans (congrArg clearMods ?_)
    exact (hclick _ rfl r.ready).trans (by rw [v.ready]; rfl)
  | .key (.named (.key vk sc)) action =>
    refine (hclear _).trans (congrArg clearMods ?_)
    have hres := v.resolved r vk sc
    cases hm : ofKey? (r.resolved vk sc) with
    | some m =>
      rw [sendTarget_modifier r hm, sendTarget_modifier (φ r) (hres ▸ hm), hres]
      exact v.sendModifierKey ..
    | none =>
      rw [sendTarget_key r hm, sendTarget_key (φ r) (hres ▸ hm), hres, v.keyMods_eq]
      exact v.sendKey ..
  | .click spec =>
    refine (hclear _).trans (congrArg clearMods ?_)
    exact (hclick spec rfl r.ready).trans (by rw [v.ready])
  | .asc digits => exact (hclear _).trans (congrArg clearMods (hasc digits rfl r))
  | .unicode cp => exact (hclear _).trans (congrArg clearMods (v.sendCodePoint r cp _))
  | .invalidUnicode directive => exact v.fail r _
  | .unknown _ => exact hclear r

theorem interpret {ts : List Token}
    (hasc : ∀ digits, .asc digits ∈ ts →
      ∀ r : Run P, φ (r.sendAsc digits) = (φ r).sendAsc digits)
    (hclick : ∀ t ∈ ts, ∀ spec, Clicks spec t → ∀ r : Run P, φ (r.click spec) = (φ r).click spec)
    (r : Run P) : φ (r.interpret ts) = (φ r).interpret ts := by
  induction ts generalizing r with
  | nil => rfl
  | cons t ts ih =>
    have hstep : φ (r.step t) = (φ r).step t := by
      unfold Run.step
      rw [v.fault]
      split_ifs
      · rfl
      · exact v.act (fun digits h => hasc digits (by simp [h])) (hclick t (by simp)) r
    refine (ih (fun digits h => hasc digits (by simp [h])) (fun u hu => hclick u (by simp [hu]))
      _).trans ?_
    rw [hstep]
    rfl

end View

end Run

end KeySynth
