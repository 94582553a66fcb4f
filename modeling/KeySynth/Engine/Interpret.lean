import KeySynth.Engine.Mouse
import KeySynth.Text.Utf16

/-!
What each token of a text does.
-/

namespace KeySynth.Run

variable {P : Type} [Platform P] (r : Run P)

/-- Win and Alt go up again after a key; Control and Shift stay until a key needs otherwise. -/
def dropAdded (mods : Mask) : Run P :=
  let held := r.kept
  let added := (mods ∩ (.win ∪ .alt)) \ held
  if r.ledger.logical.meets added then
    -- the Control key that AltGr brought along goes with it
    let added :=
      if r.altgr ∧ .ralt ∈ added ∧ .lctrl ∉ mods ∪ held then added ∪ {.lctrl} else added
    r.reconcile (r.ledger.logical \ added) .downOnly
  else r

/-- A key, with `mods` held for it. -/
def sendKeyOnce (vk : VirtualKey) (sc : ScanCode) (mods : Mask) (motion : KeyMotion) : Run P :=
  let r := r.reconcile (mods ∪ r.kept) .both
  let r := (r.strike motion vk sc).keyPause
  r.dropAdded mods

def sendKey (vk : VirtualKey) (sc : ScanCode) (mods : Mask) (motion : KeyMotion)
    (turns : Nat) : Run P :=
  Nat.repeat (fun r => r.sendKeyOnce vk sc mods motion) turns r

/-- Letting go of `m` would open a menu: it is Win or Alt and nothing else is down. -/
def releaseIsBare (m : Modifier) : Bool :=
  (m ∈ Mask.win ∪ Mask.alt) && !(r.altgr && m == .ralt) && !r.blind &&
    !decide (m ∈ r.ledger.blindHeld) && r.ledger.logical \ {m} == ∅

/-- One turn of an explicit modifier key. Its own modifier is left to the key itself. -/
def turnModifier (m : Modifier) (vk : VirtualKey) (sc : ScanCode) (action : KeyAction) : Run P :=
  let r := r.reconcile ((r.wanted \ {m}) ∪ (r.ledger.logical ∩ {m})) .both
  let r := if action = .up ∧ r.releaseIsBare m = true then r.maskDown.maskUp else r
  (r.strike action.motion vk sc).keyPause

/-- What a text's word on a modifier means for the sends to come. -/
def noteExplicit (m : Modifier) (e : Explicit) : Run P :=
  let blindBase :=
    match e with
    | .up => r.blindBase \ {m}
    | .down | .downRemapped => if r.blind then r.blindBase ∪ {m} else r.blindBase
  { r with ledger := r.ledger.noteExplicit {m} e r.blind, blindBase }

/-- A modifier key by itself. -/
def sendModifierKey (m : Modifier) (vk : VirtualKey) (sc : ScanCode) (action : KeyAction) :
    Run P :=
  let r := Nat.repeat (fun r => r.turnModifier m vk sc action) action.turns r
  match action with
  | .down => r.noteExplicit m .down
  | .downRemap => r.noteExplicit m .downRemapped
  | .up => r.noteExplicit m .up
  | .downTemp | .press _ => r

def emitUnitMotion (motion : KeyMotion) (unit : UInt16) : Run P :=
  match motion with
  | .down => r.emitUnit unit false
  | .up => r.emitUnit unit true
  | .downUp => (r.emitUnit unit false).emitUnit unit true

/-- A code point, unit by unit. -/
def sendCodePoint (cp : Nat) (motion : KeyMotion) : Run P :=
  if Text.isScalar cp then
    ((Text.utf16Units cp).foldl (·.emitUnitMotion motion ·) r.ready).keyPause
  else r

/-- On a layout with AltGr, Control and Alt together are AltGr. -/
def chordMods (mods : Mask) : Mask :=
  let ctrlAlt : Mask := {.lctrl} ∪ {.lalt}
  if r.altgr ∧ ctrlAlt ⊆ mods then (mods \ ctrlAlt) ∪ {.ralt} else mods

/-- A character: by its key, or as it is where the layout has no key for it. A literal text goes
as it is but for line feeds and tabs. -/
def sendChar (c : Char) (motion : KeyMotion) : Run P :=
  if c = '\n' then r.sendKey .enter 0 r.keyMods motion 1
  else if c = '\t' then r.sendKey .tab 0 r.keyMods motion 1
  else if r.raw = .rawText then r.sendCodePoint c.toNat motion
  else
    match Platform.chord? r.platform c r.layout with
    | some k => r.sendKey k.vk 0 (r.keyMods ∪ r.chordMods k.mods) motion 1
    | none => r.sendCodePoint c.toNat motion

/-- A lock key by itself. -/
def tapLock (vk : VirtualKey) : Run P := (r.strike .downUp vk 0).keyPause

def typeDigit (c : Char) : Run P :=
  (r.strike .downUp (VirtualKey.numpad0 + (c.toNat - '0'.toNat).toUInt8) 0).keyPause

/-- A character code: its digits on the numpad, NumLock on and Alt held. Letting go of Alt types
the character, so no menu opens. -/
def sendAsc (digits : String) : Run P :=
  let forced := !Platform.isToggled r.platform .numLock
  let r := if forced then r.tapLock .numLock else r
  let r := r.reconcile (r.wanted ∪ {.lalt}) .upOnly
  let r := digits.toList.foldl typeDigit r
  let r := r.reconcile (r.ledger.logical \ ({.lalt} \ r.wanted)) .none
  if forced then r.tapLock .numLock else r

def clickAction : KeyAction → ClickAction
  | .press _ => .downUp
  | .up => .up
  | .down | .downTemp | .downRemap => .down

def sendTarget (target : KeyTarget) (action : KeyAction) : Run P :=
  match target with
  | .char c => Nat.repeat (fun r => r.sendChar c action.motion) action.turns r
  | .named (.mouse b) =>
    r.ready.click { button := b, count := action.turns, action := clickAction action }
  | .named (.key vk sc) =>
    let vk := if vk = 0 then Platform.keyAt r.platform sc r.layout else vk
    match Modifier.ofKey? vk with
    | some m => r.sendModifierKey m vk sc action
    | none => r.sendKey vk sc r.keyMods action.motion action.turns

/-- The modifiers asked for are used up. -/
def clearMods : Run P := { r with keyMods := ∅ }

/-- A symbol counts unless its class is held down already. -/
def addMod (m : Modifier) : Run P :=
  if r.ledger.persistent.meets (Mask.classes {m}) then r
  else { r with keyMods := r.keyMods ∪ {m} }

def act : Token → Run P
  | .blind _ => r
  | .raw => { r with raw := .raw }
  | .text => { r with raw := .rawText }
  | .modifier m => r.addMod m
  | .char c => (r.sendChar c .downUp).clearMods
  | .key target action => (r.sendTarget target action).clearMods
  | .click spec => (r.ready.click spec).clearMods
  | .asc digits => (r.sendAsc digits).clearMods
  | .unicode cp => (r.sendCodePoint cp .downUp).clearMods
  | .invalidUnicode directive => r.fail (.invalidUnicode directive)
  | .unknown _ => r.clearMods

/-- The next token, unless a fault has ended the text. -/
def step (t : Token) : Run P := if r.fault.isSome then r else r.act t

def interpret (ts : List Token) : Run P := ts.foldl step r

theorem interpret_append (ts us : List Token) :
    r.interpret (ts ++ us) = (r.interpret ts).interpret us := by
  simp [interpret, List.foldl_append]

end KeySynth.Run
