import KeySynth.Desktop.Basic
import KeySynth.Proofs.Engine.Journal
import KeySynth.Proofs.Text.Utf16

/-!
What is held while a key goes down.

A token acts in turns: one for each time that a key is pressed, a code point sent or a button
clicked. A turn first brings the modifiers to where it wants them, and the journal shows that they
are there when its first event is sent.
-/

namespace KeySynth

open Modifier

/-- What one turn of a token does. -/
inductive Turn where
  /-- A key, with the modifiers `asked` on top of those of the text. -/
  | key (vk : VirtualKey) (sc : ScanCode) (asked : Mask) (motion : KeyMotion)
  | codePoint (cp : Nat) (motion : KeyMotion)
  | click (spec : ClickSpec)

/-- The modifiers that the layout asks for. -/
def Turn.asked : Turn → Mask
  | key _ _ asked _ => asked
  | codePoint _ _ | click _ => ∅

namespace Run

variable {P : Type} [Platform P] (r : Run P)

/-- A turn is taken. -/
def take : Turn → Run P
  | .key vk sc asked motion => r.sendKeyOnce vk sc (r.keyMods ∪ asked) motion
  | .codePoint cp motion => r.sendCodePoint cp motion
  | .click spec => r.ready.click spec

/-- What a turn wants to be down. -/
def due (u : Turn) : Mask := r.keyMods ∪ u.asked ∪ r.ledger.persistent ∪ r.blindBase

/-- A run that has brought the modifiers to where the turn wants them. -/
def poised (u : Turn) : Run P := r.reconcile (r.due u) .both

/-- The first event of a turn whose modifiers are where it wants them. -/
def Opens (s : Run P) : Turn → EventRecord → Prop
  | .key vk sc _ motion, ev => ev = s.keyEvent vk sc (motion = .up) s.tag
  | .codePoint cp motion, ev =>
    ∃ unit ∈ (Text.utf16Units cp).head?,
      ev = .key ⟨.packet, unit, motion = .up, false, true, s.tag⟩
  | .click spec, ev =>
    let b := s.physicalButton spec.button
    let flags :=
      if spec.button.isWheel then spec.button.wheel
      else if spec.action = .up then b.events.up
      else b.events.down
    ∃ data point, ev = .mouse ⟨flags, data, point, s.tag⟩

/-- The turn of a character. -/
def charTurn (c : Char) (motion : KeyMotion) : Turn :=
  if c = '\n' then .key .enter 0 ∅ motion
  else if c = '\t' then .key .tab 0 ∅ motion
  else if r.raw = .rawText then .codePoint c.toNat motion
  else
    match Platform.chord? r.platform c r.layout with
    | some k => .key k.vk 0 (r.chordMods k.mods) motion
    | none => .codePoint c.toNat motion

/-- A click that does not move and has something to do. -/
def ClickInPlace (spec : ClickSpec) : Prop :=
  (spec.x = none ∨ spec.y = none) ∧ spec.count ≠ 0 ∧ spec.fault? = none

/-- Acting on a token, a run begun at `r` takes a turn at `s`. -/
inductive Turns : Token → Run P → Turn → Prop where
  | char (c : Char) : Turns (.char c) r (r.charTurn c .downUp)
  | keyChar (c : Char) (a : KeyAction) {i : Nat} (s : Run P) : i < a.turns →
      s = Nat.repeat (fun s => s.sendChar c a.motion) i r →
      Turns (.key (.char c) a) s (s.charTurn c a.motion)
  | key (vk : VirtualKey) (sc : ScanCode) (a : KeyAction) {i : Nat} (s : Run P) : i < a.turns →
      ofKey? (r.resolved vk sc) = none →
      s = Nat.repeat (fun s => s.sendKeyOnce (r.resolved vk sc) sc r.keyMods a.motion) i r →
      Turns (.key (.named (.key vk sc)) a) s (.key (r.resolved vk sc) sc ∅ a.motion)
  | button (b : Button) (a : KeyAction) : ClickInPlace (.ofKey b a) →
      Turns (.key (.named (.mouse b)) a) r (.click (.ofKey b a))
  | click (spec : ClickSpec) : ClickInPlace spec → Turns (.click spec) r (.click spec)
  | unicode (cp : Nat) : Text.isScalar cp = true →
      Turns (.unicode cp) r (.codePoint cp .downUp)

/-- There is something to do in the turn. -/
def Acts : Turn → Prop
  | .key .. => True
  | .codePoint cp _ => Text.isScalar cp = true
  | .click spec => ClickInPlace spec

lemma acts_charTurn (c : Char) (motion : KeyMotion) : Acts (r.charTurn c motion) := by
  unfold charTurn
  split_ifs
  · trivial
  · trivial
  · exact Text.isScalar_toNat c
  · split
    · trivial
    · exact Text.isScalar_toNat c

/-- A character takes its turn. -/
lemma take_charTurn (c : Char) (motion : KeyMotion) :
    r.take (r.charTurn c motion) = r.sendChar c motion := by
  unfold charTurn sendChar
  split_ifs
  · rw [take, Mask.union_empty]
    rfl
  · rw [take, Mask.union_empty]
    rfl
  · rfl
  · cases Platform.chord? r.platform c r.layout <;> rfl

variable {r}

/-! ### The first event of a turn -/

lemma journal_strike (motion : KeyMotion) (vk : VirtualKey) (sc : ScanCode) :
    ⟨r.keyEvent vk sc (motion = .up) r.tag, r.ledger.logical⟩ :: r.journal <:+
      (r.strike motion vk sc).journal := by
  have h : ∀ up, (r.emitKey vk sc up r.tag).journal =
      ⟨r.keyEvent vk sc up r.tag, r.ledger.logical⟩ :: r.journal := fun up => r.journal_emit _
  cases motion with
  | down => rw [strike, h]; exact List.suffix_refl _
  | up => rw [strike, h]; exact List.suffix_refl _
  | downUp =>
    have hf : Flows (fun _ => True) (r.emitKey vk sc false r.tag) (r.strike .downUp vk sc) :=
      ((Flows.refl _).pause (Backend.keyPause_suits _ _)).emit trivial
    have hj := hf.journal_suffix
    rwa [h] at hj

lemma journal_emitUnitMotion (motion : KeyMotion) (unit : UInt16) :
    ⟨.key ⟨.packet, unit, motion = .up, false, true, r.tag⟩, r.ledger.logical⟩ :: r.journal <:+
      (r.emitUnitMotion motion unit).journal := by
  have h : ∀ up, (r.emitUnit unit up).journal =
      ⟨.key ⟨.packet, unit, up, false, true, r.tag⟩, r.ledger.logical⟩ :: r.journal :=
    fun up => r.journal_emit _
  cases motion with
  | down => rw [emitUnitMotion, h]; exact List.suffix_refl _
  | up => rw [emitUnitMotion, h]; exact List.suffix_refl _
  | downUp =>
    have hj :=
      (Course.unit (K := fun _ _ _ => True) (r.emitUnit unit false) unit true).journal_suffix
    rwa [h] at hj

lemma repeat_succ_inner {α : Type} (f : α → α) (n : Nat) (a : α) :
    Nat.repeat f (n + 1) a = Nat.repeat f n (f a) := by
  induction n with
  | zero => rfl
  | succ n ih => exact congrArg f ih

/-- A click in place begins with the button or the wheel. -/
lemma journal_click {s : Run P} {spec : ClickSpec} (h : ClickInPlace spec) :
    ∃ ev, s.Opens (.click spec) ev ∧
      ⟨ev, s.ledger.logical⟩ :: s.journal <:+ (s.click spec).journal := by
  obtain ⟨hxy, hcount, hfault⟩ := h
  have hstay : s.click spec = if spec.button.isWheel then s.turnWheel spec.button spec.count
      else s.clickButton (s.physicalButton spec.button) spec.count spec.action := by
    unfold click
    rcases hxy with hx | hy
    · simp [hx, hcount]
    · cases spec.x <;> simp [hy, hcount]
  have hpause : ∀ flags data point, (s.emitMouse flags data point).mousePause.journal =
      ⟨.mouse ⟨flags, data, point, s.tag⟩, s.ledger.logical⟩ :: s.journal :=
    fun _ _ _ => (journal_pause _ _).trans (s.journal_emit _)
  have hfirst : ∀ flags data point, ⟨.mouse ⟨flags, data, point, s.tag⟩, s.ledger.logical⟩ ::
      s.journal <:+ (s.emitMouse flags data point).mousePause.journal :=
    fun flags data point => hpause flags data point ▸ List.suffix_refl _
  rw [hstay]
  by_cases hw : spec.button.isWheel = true
  · rw [if_pos hw]
    unfold turnWheel
    cases hd : spec.button.wheelTurn? spec.count with
    | none => simp [ClickSpec.fault?, hcount, hw, hd] at hfault
    | some d =>
      exact ⟨_, ⟨d, s.cursor, by rw [if_pos hw]⟩, hfirst _ _ _⟩
  · rw [if_neg hw]
    set b := s.physicalButton spec.button with hb
    unfold clickButton
    dsimp only
    cases hact : spec.action with
    | down =>
      refine ⟨_, ⟨b.events.data, s.cursor, ?_⟩, hfirst _ _ _⟩
      simp [hw, hact, ← hb]
    | up =>
      refine ⟨_, ⟨b.events.data, s.cursor, ?_⟩, hfirst _ _ _⟩
      simp [hw, hact, ← hb]
    | downUp =>
      obtain ⟨n, hn⟩ := Nat.exists_eq_succ_of_ne_zero hcount
      have hturn : ∀ q : Run P, Course (fun _ _ _ => True) q
          ((q.press b s.cursor).release b s.cursor) := fun q =>
        ((Course.mouse q _ _ _).mousePause.trans (.mouse _ _ _ _)).mousePause
      have hrest : Course (fun _ _ _ => True) (s.press b s.cursor) (Nat.repeat
          (fun q => (q.press b s.cursor).release b s.cursor) spec.count s) := by
        rw [hn, repeat_succ_inner]
        exact (Course.mouse _ _ _ _).mousePause.trans (.iterate hturn n)
      refine ⟨_, ⟨b.events.data, s.cursor, ?_⟩, (hfirst _ _ _).trans hrest.journal_suffix⟩
      simp [hw, hact, ← hb]

/-- A turn that has something to do begins, once the modifiers are where it wants them, with its
first event. -/
theorem journal_take {s : Run P} {u : Turn} (hu : Acts u) :
    ∃ ev, (s.poised u).Opens u ev ∧
      ⟨ev, (s.poised u).ledger.logical⟩ :: (s.poised u).journal <:+ (s.take u).journal := by
  cases u with
  | key vk sc asked motion =>
    refine ⟨_, rfl, ?_⟩
    have hdue : s.keyMods ∪ asked ∪ s.kept = s.due (.key vk sc asked motion) :=
      (Mask.union_assoc _ _ _).symm
    have hc : Course (fun _ _ _ => True) ((s.poised (.key vk sc asked motion)).strike motion vk sc)
        (s.take (.key vk sc asked motion)) := by
      rw [take, sendKeyOnce, hdue]
      exact (Course.refl _).keyPause.dropAdded _
    exact (journal_strike motion vk sc).trans hc.journal_suffix
  | codePoint cp motion =>
    have hdue : s.due (.codePoint cp motion) = s.wanted := by
      rw [due, Turn.asked, Mask.union_empty, wanted]
    have hready : s.poised (.codePoint cp motion) = s.ready := by rw [poised, hdue, ready]
    have hunits : ∃ unit units, Text.utf16Units cp = unit :: units := by
      unfold Text.utf16Units
      split_ifs <;> exact ⟨_, _, rfl⟩
    obtain ⟨unit, units, hcp⟩ := hunits
    refine ⟨_, ⟨unit, by rw [hcp]; rfl, rfl⟩, ?_⟩
    have hscalar : Text.isScalar cp = true := hu
    rw [take, sendCodePoint, if_pos hscalar, hcp, List.foldl_cons, hready]
    have hc : Course (fun _ _ _ => True) (s.ready.emitUnitMotion motion unit)
        (units.foldl (·.emitUnitMotion motion ·) (s.ready.emitUnitMotion motion unit)).keyPause :=
      (Course.foldl fun q v _ => Course.emitUnitMotion q motion v).keyPause
    exact (journal_emitUnitMotion motion unit).trans hc.journal_suffix
  | click spec =>
    have hdue : s.due (.click spec) = s.wanted := by
      rw [due, Turn.asked, Mask.union_empty, wanted]
    have hready : s.poised (.click spec) = s.ready := by rw [poised, hdue, ready]
    rw [hready, take]
    exact journal_click hu

namespace Turns

variable {t : Token} {s : Run P} {u : Turn} (h : r.Turns t s u)
include h

lemma acts : Acts u := by
  cases h with
  | char c => exact r.acts_charTurn c _
  | keyChar c a s => exact s.acts_charTurn c _
  | key => trivial
  | button b a hc => exact hc
  | click spec hc => exact hc
  | unicode cp hc => exact hc

/-- Between its turns a token leaves the session alone. -/
lemma still : s.still = r.still := by
  cases h with
  | keyChar c a s _ hs =>
    rw [hs]
    exact (Course.iterate (fun q => Course.sendChar (strokes_any (.key (.char c) a)) q c) _).still
  | key vk sc a s _ _ hs =>
    rw [hs]
    exact (Course.sendKey (K := fun _ _ _ => True) trivial _ _).still
  | char | button | click | unicode => rfl

/-- What a turn has sent stays in the journal. -/
lemma journal : (s.take u).journal <:+ (r.act t).journal := by
  have hk : s.keyMods = r.keyMods := still_keyMods h.still
  cases h with
  | char c =>
    rw [take_charTurn]
    exact List.suffix_refl _
  | @keyChar c a i s hi hs =>
    have hstep : ∀ q : Run P, Course (fun _ _ _ => True) q (q.sendChar c a.motion) := fun q =>
      Course.sendChar (strokes_any (.key (.char c) a)) q c
    rw [take_charTurn, hs]
    exact (Course.iterate_of_le (r := r) hstep (Nat.succ_le_of_lt hi)).journal_suffix
  | @key vk sc a i s hi hm hs =>
    have hact : r.act (.key (.named (.key vk sc)) a) =
        (r.sendKey (r.resolved vk sc) sc r.keyMods a.motion a.turns).clearMods := by
      rw [act, r.sendTarget_key hm]
    have hstep : ∀ q : Run P, Course (fun _ _ _ => True) q
        (q.sendKeyOnce (r.resolved vk sc) sc r.keyMods a.motion) := fun q =>
      (Course.refl q).sendKeyOnce trivial _
    rw [take, hk, Mask.union_empty, hact, hs]
    exact (Course.iterate_of_le (r := r) hstep (Nat.succ_le_of_lt hi)).journal_suffix
  | button b a => exact List.suffix_refl _
  | click spec => exact List.suffix_refl _
  | unicode cp => exact List.suffix_refl _

/-- A turn finds down what it wants when its first event is sent. -/
theorem held (hp : PlainMask r.maskKey) :
    ∃ ev, (s.poised u).Opens u ev ∧
      ⟨ev, (r.due u).settled r.altgr⟩ :: (s.poised u).journal <:+ (r.act t).journal := by
  obtain ⟨ev, hev, hj⟩ := journal_take h.acts (s := s)
  have hdue : s.due u = r.due u := by
    rw [due, due, still_keyMods h.still, still_persistent h.still, still_blindBase h.still]
  have hl : (s.poised u).ledger.logical = (r.due u).settled r.altgr := by
    rw [poised, logical_reconcile _ (still_maskKey h.still ▸ hp), still_altgr h.still, hdue]
  rw [hl] at hj
  exact ⟨ev, hev, hj.trans h.journal⟩

end Turns

end Run

/-! ### Symbols in front of a key -/

/-- The modifiers that the symbols since the last key ask for, but for those of a class that is
held down anyway. -/
def Token.pending (persistent : Mask) (us : List Token) : Mask :=
  us.foldl (fun mods t => t.modsAfter persistent mods) ∅

namespace Run

variable {P : Type} [Platform P] (r : Run P)

lemma keyMods_act (t : Token) :
    (r.act t).keyMods = t.modsAfter r.ledger.persistent r.keyMods := by
  obtain ⟨s, hs, he⟩ := r.act_eq (strokes_any t)
  rw [he, conclude, still_persistent hs.still, still_keyMods hs.still]

/-- Only keys change what texts keep down, and keys use up the modifiers asked for. -/
lemma persistent_act (t : Token) :
    (r.act t).ledger.persistent = r.ledger.persistent ∨ ∀ p mods, t.modsAfter p mods = ∅ := by
  obtain ⟨s, hs, he⟩ := r.act_eq (strokes_any t)
  match t with
  | .key _ _ => exact .inr fun _ _ => rfl
  | .char _ | .modifier _ | .click _ | .raw | .text | .blind _ | .asc _ | .unicode _
  | .invalidUnicode _ | .unknown _ =>
    have hp : s.ledger.persistent = r.ledger.persistent := still_persistent hs.still
    rw [he]
    exact .inl hp

/-- As long as no fault has ended the text, what is asked for is what its symbols ask for. -/
theorem keyMods_interpret (h0 : r.keyMods = ∅) (us : List Token)
    (hf : (r.interpret us).fault = none) :
    (r.interpret us).keyMods = Token.pending (r.interpret us).ledger.persistent us := by
  refine r.interpret_induction (I := fun us s => s.keyMods = Token.pending s.ledger.persistent us)
    h0 (fun us t s ih => ?_) hf
  rw [keyMods_act, ih, Token.pending, Token.pending, List.foldl_append]
  rcases s.persistent_act t with hp | hmods
  · rw [hp]
    rfl
  · simp [hmods]

end Run

namespace Engine

variable {P : Type} [Platform P] {e : Engine P} {o : SendOptions} {us vs : List Token} {t : Token}

/-- **The right modifiers at every key**: when the first event of a turn is sent, those are down
that the symbols in front ask for, those that the layout asks for, those that texts keep down and
those that a blind send keeps, with the left Control key if AltGr is one of them. -/
theorem held_at_turn {text : String} {r s : Run P} {u : Turn} (hmask : PlainMask e.maskKey)
    (htext : Token.ofText o.raw text = us ++ t :: vs)
    (hr : e.upTo (Token.ofText o.raw text) o us = r) (hfault : r.fault = none)
    (hturn : r.Turns t s u) :
    ∃ ev, (s.poised u).Opens u ev ∧
      ⟨ev, (Token.pending r.ledger.persistent us ∪ u.asked ∪ r.ledger.persistent ∪
            r.blindBase).settled
          (e.ledger.hasAltGr (Platform.focusedLayout e.platform o.target)
            (Platform.hasAltGr e.platform)).1⟩ :: (s.poised u).journal <:+
        (e.sendRun (Token.ofText o.raw text) o).journal := by
  subst hr
  set ts := Token.ofText o.raw text
  have hfixed := e.fixed_upTo ts o us
  have haltgr : (e.upTo ts o us).altgr =
      (e.ledger.hasAltGr (Platform.focusedLayout e.platform o.target)
        (Platform.hasAltGr e.platform)).1 := Run.fixed_altgr hfixed
  have hm : (e.upTo ts o us).maskKey = e.maskKey := Run.fixed_maskKey hfixed
  have hmods : (e.upTo ts o us).keyMods =
      Token.pending (e.upTo ts o us).ledger.persistent us := by
    have h0 : (e.opened ts o).storeCapsLock.keyMods = ∅ :=
      Run.still_keyMods (Run.flows_storeCapsLock _).still
    exact Run.keyMods_interpret _ h0 us hfault
  obtain ⟨ev, hev, hj⟩ := hturn.held (hm ▸ hmask)
  rw [Run.due, hmods, haltgr] at hj
  exact ⟨ev, hev, hj.trans (journal_sendRun htext hfault)⟩

/-- Control is held while `a` is typed. -/
theorem held_at_turn_of_ctrl :
    let e := Engine.new Desktop.new {}
    let r := e.upTo (Token.ofText .notRaw "^a") .plain [.modifier lctrl]
    let u := r.charTurn 'a' .downUp
    ∃ ev, (r.poised u).Opens u ev ∧
      ⟨ev, (Token.pending r.ledger.persistent [.modifier lctrl] ∪ u.asked ∪ r.ledger.persistent ∪
            r.blindBase).settled
          (e.ledger.hasAltGr (Platform.focusedLayout e.platform none)
            (Platform.hasAltGr e.platform)).1⟩ :: (r.poised u).journal <:+
        (e.sendRun (Token.ofText .notRaw "^a") .plain).journal := by
  have hts : Token.ofText .notRaw "^a" = [.modifier lctrl] ++ .char 'a' :: [] := by
    simp [Token.ofText, Token.ofChars, Token.ofChar, ofSymbol?]
  have hmask : PlainMask (Engine.new Desktop.new {}).maskKey := by
    refine ⟨by decide, fun m hm => ?_⟩
    cases Mask.mem_ofKey.mp hm
    decide
  refine held_at_turn (o := .plain) hmask hts rfl ?_ (.char 'a')
  rw [hts]
  rfl

end Engine

end KeySynth
