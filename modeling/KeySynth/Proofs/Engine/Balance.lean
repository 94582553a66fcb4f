import KeySynth.Proofs.Desktop.Rests
import KeySynth.Proofs.Engine.Tracking

/-!
Nothing stays down.

Between two steps of a course no key is down but modifier keys: a tap of the mask key and a stroke
let go of their key again, and what is done between two taps of a lock key does not touch the locks.
What modifier keys are down the ledger knows, and at the end of a send it has them all let go.
-/

namespace KeySynth

open Modifier Recorder

/-- The key that a stroke moves on the US board. -/
def landing (vk : VirtualKey) (sc : ScanCode) : VirtualKey :=
  let vk := if vk = 0 then sc.key else vk
  ((ofKey? vk).map key).getD vk

lemma landing_modifier (m : Modifier) : landing m.key m.scan = m.key := by
  simp [landing]

lemma isLock_landing {vk : VirtualKey} {sc : ScanCode}
    (h : (if vk = 0 then sc.key else vk).isLock = false) : (landing vk sc).isLock = false := by
  unfold landing
  dsimp only
  cases hm : ofKey? (if vk = 0 then sc.key else vk) with
  | none => exact h
  | some m => exact ModifierKey.isLock_eq_false ⟨m, rfl⟩

lemma ofKey?_of_isLock {vk : VirtualKey} (h : vk.isLock = true) : ofKey? vk = none := by
  simp only [VirtualKey.isLock, Bool.or_eq_true, beq_iff_eq] at h
  rcases h with (rfl | rfl) | rfl <;> decide

/-- A lock does not come by its scan code. -/
lemma ite_of_isLock {vk w : VirtualKey} (h : vk.isLock = true) : (if vk = 0 then w else vk) = vk :=
  if_neg fun h0 => absurd (h0 ▸ h) (by decide)

/-- A lock has no side. -/
lemma landing_lock {vk : VirtualKey} {sc : ScanCode}
    (h : (if vk = 0 then sc.key else vk).isLock = true) :
    landing vk sc = if vk = 0 then sc.key else vk := by
  unfold landing
  dsimp only
  rw [ofKey?_of_isLock h]
  rfl

namespace Run

variable {P : Type} [Platform P] [Recorder P] {d : Desktop} {S T : VirtualKey → Prop}

/-- A key's event as it travels, and the key that it moves. -/
lemma carried_keyEvent {vk : VirtualKey} {sc : ScanCode} (h : SidedKey vk sc) (r : Run P)
    (up : Bool) (info : Tag) (b : Backend) : ∃ k : KeyRecord,
    (r.keyEvent vk sc up info).carried b = .key k ∧ k.unicode = false ∧ k.up = up ∧
      Desktop.keyOf k = landing vk sc ∧
      (vk ≠ 0 → k.vk = vk ∨ k.vk = vk.neutral) := by
  have hs := r.sided_keyEvent h up info
  unfold keyEvent at hs ⊢
  simp only [keyAt_eq, scanOf_eq] at hs ⊢
  refine ⟨_, rfl, ?_, ?_, ?_, ?_⟩
  · split_ifs <;> rfl
  · split_ifs <;> rfl
  · change Desktop.moves b _ = _
    unfold landing
    dsimp only
    cases hm : ofKey? (if vk = 0 then sc.key else vk) with
    | none => exact Desktop.moves_of_none hm _
    | some m => exact Desktop.moves_of_some hs hm _
  · intro h0
    simp only [if_neg h0]
    by_cases hb : b = .play <;> simp [hb]

lemma desk_emitKey {vk : VirtualKey} {sc : ScanCode} (h : SidedKey vk sc) (r : Run P) (up : Bool)
    (info : Tag) : ∃ k : KeyRecord, (r.emitKey vk sc up info).desk d = (r.desk d).apply (.key k) ∧
      k.unicode = false ∧ k.up = up ∧ Desktop.keyOf k = landing vk sc := by
  obtain ⟨k, hk, hu, hup, hv, -⟩ := r.carried_keyEvent h up info r.backend
  exact ⟨k, by rw [emitKey_eq, desk_emit, hk], hu, hup, hv⟩

lemma rests_down {r : Run P} (h : (r.desk d).Rests S T) (hc : S .lcontrol) {vk : VirtualKey}
    {sc : ScanCode} (hk : SidedKey vk sc) (hl : (landing vk sc).isLock = false) (info : Tag) :
    ((r.emitKey vk sc false info).desk d).Rests (fun v => v = landing vk sc ∨ S v) T := by
  obtain ⟨k, hd, hu, -, hv⟩ := r.desk_emitKey hk false info
  rw [hd, ← hv]
  exact h.press hc hu (hv ▸ hl)

lemma rests_up {r : Run P} {vk : VirtualKey} {sc : ScanCode} (hk : SidedKey vk sc)
    (h : (r.desk d).Rests (fun v => v = landing vk sc ∨ S v) T) (info : Tag) :
    ((r.emitKey vk sc true info).desk d).Rests S T := by
  obtain ⟨k, hd, hu, hup, hv⟩ := r.desk_emitKey hk true info
  rw [hd]
  exact Desktop.Rests.release (hv ▸ h) hu hup

/-- Modifier keys come and go while another key is down. -/
lemma rests_modifier {r : Run P} (h : (r.desk d).Rests S T) (hS : ∀ m : Modifier, S m.key)
    (m : Modifier) (up : Bool) : ((r.emitModifier m up).desk d).Rests S T := by
  have hk := sidedKey_modifier m
  have hadd : (r.desk d).Rests (fun v => v = landing m.key m.scan ∨ S v) T :=
    ⟨fun v hv => .inr (h.down v hv), h.toggled⟩
  cases up with
  | false =>
    have hl : (landing m.key m.scan).isLock = false := by
      rw [landing_modifier]
      exact ModifierKey.isLock_eq_false ⟨m, rfl⟩
    have hd := rests_down h (hS lctrl) hk hl r.tag
    refine ⟨fun v hv => (hd.down v hv).elim (fun he => ?_) id, hd.toggled⟩
    rw [he, landing_modifier]
    exact hS m
  | true => exact rests_up hk hadd r.tag

/-- No key is down but modifier keys. -/
def Rests (d : Desktop) (T : VirtualKey → Prop) (r : Run P) : Prop :=
  (r.desk d).Rests ModifierKey T

namespace Rests

variable {r : Run P} (h : Rests d T r)
include h

omit [Recorder P] in
lemma pause (p : Pause) : Rests d T (r.pause p) := by
  rw [Rests, desk_pause]
  exact h

lemma strike {vk : VirtualKey} {sc : ScanCode} (hk : SidedKey vk sc)
    (hl : (landing vk sc).isLock = false) : Rests d T (r.strike .downUp vk sc) := by
  have hd := rests_down h ⟨lctrl, rfl⟩ hk hl r.tag
  refine rests_up hk ?_ r.tag
  rwa [pressPause, desk_pause]

lemma strikeLock {vk : VirtualKey} (hl : vk.isLock = true) :
    Rests d (switched vk T) (r.strike .downUp vk 0) := by
  have hland : landing vk 0 = vk :=
    (landing_lock (by rwa [ite_of_isLock hl])).trans (ite_of_isLock hl)
  have hS : ¬ModifierKey vk := fun hm => by simp [hm.isLock_eq_false] at hl
  obtain ⟨k, hd, hu, hup, hv⟩ := r.desk_emitKey (d := d) (sidedKey_zero vk) false r.tag
  have hkl : Desktop.keyOf k = vk := hv.trans hland
  have hdown := Desktop.Rests.pressLock h ⟨lctrl, rfl⟩ hu hup (hkl ▸ hl) (hkl ▸ hS)
  refine rests_up (sidedKey_zero vk) ?_ r.tag
  rw [pressPause, desk_pause, hd, hland]
  rwa [hkl] at hdown

variable (hk : SidedKey r.maskKey.1 r.maskKey.2)
  (hl : (landing r.maskKey.1 r.maskKey.2).isLock = false)
include hk hl

lemma tap : Rests d T r.maskDown.maskUp := by
  have hd := rests_down h ⟨lctrl, rfl⟩ hk hl .ignore
  have hm : r.maskDown.maskKey = r.maskKey := still_maskKey (r.still_emitKey _ _ _ _)
  rw [maskUp, hm]
  exact rests_up hk hd .ignore

lemma tapRound (m : Modifier) : Rests d T (r.maskDown.emitModifier m false).maskUp := by
  have hd := rests_down h ⟨lctrl, rfl⟩ hk hl .ignore
  have hm : (r.maskDown.emitModifier m false).maskKey = r.maskKey :=
    still_maskKey ((still_emitKey _ _ _ _ _).trans (r.still_emitKey _ _ _ _))
  rw [maskUp, hm]
  exact rests_up hk (rests_modifier hd (fun n => .inr ⟨n, rfl⟩) m false) .ignore

end Rests

/-- Keys that are pressed and let go of, and that are no locks. -/
def PressLaw : StrokeLaw := fun motion vk sc =>
  motion = .downUp ∧ SidedKey vk sc ∧ (landing vk sc).isLock = false

/-- **A course of presses is balanced.** -/
theorem Course.rests {r s : Run P} (hc : Course PressLaw r s)
    (hk : SidedKey r.maskKey.1 r.maskKey.2)
    (hl : (landing r.maskKey.1 r.maskKey.2).isLock = false) {T : VirtualKey → Prop}
    (h : Rests d T r) : Rests d T s := by
  induction hc generalizing T with
  | refl r => exact h
  | trans hrs _ ih ih' =>
    have hm := still_maskKey hrs.still
    exact ih' (hm ▸ hk) (hm ▸ hl) (ih hk hl h)
  | modifier r m up => exact rests_modifier h (fun n => ⟨n, rfl⟩) m up
  | tap r => exact h.tap hk hl
  | tapRound r m => exact h.tapRound hk hl m
  | stroke r hK =>
    obtain ⟨rfl, hs, hn⟩ := hK
    exact h.strike hs hn
  | unit r unit up =>
    rw [Rests, emitUnit, desk_emit]
    refine Desktop.Rests.congr h ?_
    exact Desktop.keys_apply_unicode (by split_ifs <;> rfl)
  | mouse r flags data point =>
    rw [Rests, emitMouse, desk_emit]
    exact Desktop.Rests.congr h (Desktop.keys_apply_mouse _ _)
  | pause r _ => exact h.pause _
  | @lock r s vk hv hrs ih =>
    have hm : (r.strike .downUp vk 0).maskKey = r.maskKey := still_maskKey (r.still_strike ..)
    have h' := ih (hm ▸ hk) (hm ▸ hl) (h.strikeLock hv)
    have hs := h'.strikeLock hv
    rwa [switched_switched] at hs

end Run

/-! ### Tokens that press keys -/

/-- Its keys are pressed and let go of, and none of them is a lock. -/
def Token.Presses : Token → Prop
  | .key (.named (.key vk sc)) a =>
    (∃ n, a = .press n) ∧ (if vk = 0 then sc.key else vk).isLock = false
  | .key (.char _) a => ∃ n, a = .press n
  | _ => True

namespace Run

lemma pressLaw_zero {vk : VirtualKey} (h : vk.isLock = false) : PressLaw .downUp vk 0 := by
  refine ⟨rfl, sidedKey_zero vk, isLock_landing ?_⟩
  split_ifs
  · rfl
  · exact h

lemma strokes_press {t : Token} (hs : t.Sided) (hp : t.Presses)
    (hd : ∀ ds, t = .asc ds → ∀ c ∈ ds.toList, c.isDigit = true) : Strokes Desktop PressLaw t := by
  have hc : CharStrokes Desktop PressLaw .downUp :=
    ⟨pressLaw_zero rfl, pressLaw_zero rfl, fun _ _ _ _ h =>
      pressLaw_zero (Desktop.typing_chord? h).isLock⟩
  match t with
  | .char c => exact hc
  | .key (.char c) a =>
    obtain ⟨n, rfl⟩ := hp
    exact hc
  | .key (.named (.mouse b)) a => exact trivial
  | .key (.named (.key vk sc)) a =>
    obtain ⟨⟨n, rfl⟩, hl⟩ := hp
    have hl' : (if (if vk = 0 then sc.key else vk) = 0 then sc.key
        else (if vk = 0 then sc.key else vk)).isLock = false := by
      split_ifs at hl ⊢ <;> assumption
    exact fun p l => ⟨rfl, (strokes_sided hs : Strokes Desktop _ _) p l, isLock_landing hl'⟩
  | .asc ds =>
    intro c hc
    exact pressLaw_zero (VirtualKey.Typing.of_digit (hd ds rfl c hc)).isLock
  | .modifier _ | .click _ | .raw | .text | .blind _ | .unicode _ | .invalidUnicode _
  | .unknown _ => exact trivial

lemma explicit?_of_presses {r : Run Desktop} {t : Token} (h : t.Presses) :
    r.explicit? t = none := by
  match t with
  | .key (.named (.key vk sc)) a =>
    obtain ⟨⟨n, rfl⟩, -⟩ := h
    change (ofKey? (r.resolved vk sc)).bind (fun _ => none) = none
    cases ofKey? (r.resolved vk sc) <;> rfl
  | .key (.named (.mouse b)) a | .key (.char c) a => rfl
  | .char _ | .asc _ | .modifier _ | .click _ | .raw | .text | .blind _ | .unicode _
  | .invalidUnicode _ | .unknown _ => rfl

/-! ### A whole send -/

/-- A run that has no key down but modifier keys, and none to put down at its end. -/
structure Light (d : Desktop) (maskKey : VirtualKey × ScanCode)
    (T : VirtualKey → Prop) (r : Run Desktop) : Prop where
  follows : Follows d maskKey r
  rests : Rests d T r
  restored : r.restored = ∅

namespace Light

variable {d : Desktop} {maskKey : VirtualKey × ScanCode} {T : VirtualKey → Prop}
  {r : Run Desktop} (h : Light d maskKey T r)
include h

lemma tapLock {vk : VirtualKey} (hl : vk.isLock = true) :
    Light d maskKey (switched vk T) (r.tapLock vk) :=
  ⟨h.follows.tapLock vk, (h.rests.strikeLock hl).pause _,
    (still_restored (r.still_tapLock vk)).trans h.restored⟩

variable (hk : SidedKey maskKey.1 maskKey.2) (hl : (landing maskKey.1 maskKey.2).isLock = false)
include hk hl

lemma course {s : Run Desktop} (hc : Course PressLaw r s) : Light d maskKey T s := by
  have hm := h.follows.maskKey
  have hw : Course (fun _ vk sc => SidedKey vk sc) r s := hc.mono fun hk => hk.2.1
  exact ⟨h.follows.course hk hw, hc.rests (hm ▸ hk) (hm ▸ hl) h.rests,
    (still_restored hc.still).trans h.restored⟩

lemma act {t : Token} (hs : t.Sided) (hp : t.Presses)
    (hd : ∀ ds, t = .asc ds → ∀ c ∈ ds.toList, c.isDigit = true) :
    Light d maskKey T (r.act t) := by
  obtain ⟨s, hc, he⟩ := r.act_eq (strokes_press hs hp hd)
  rw [he, explicit?_of_presses hp]
  have h' := h.course hk hl hc
  exact ⟨h'.follows.conclude t none, h'.rests, h'.restored⟩

/-- CapsLock is off while keys are typed, or it is left alone. -/
lemma interpret {ts : List Token} (hs : ∀ t ∈ ts, t.Sided) (hp : ∀ t ∈ ts, t.Presses)
    (hd : ∀ ds, .asc ds ∈ ts → ∀ c ∈ ds.toList, c.isDigit = true) :
    Light d maskKey (if r.storesCapsLock then switched .capsLock T else T)
      (r.storeCapsLock.interpret ts) := by
  have hact : ∀ {T'}, ∀ s : Run Desktop, ∀ t ∈ ts,
      Light d maskKey T' s → Light d maskKey T' (s.act t) :=
    fun s t ht h' => h'.act hk hl (hs t ht) (hp t ht) fun ds he => hd ds (he ▸ ht)
  refine interpret_invariant hact ?_
  unfold storeCapsLock
  split_ifs
  · exact h.tapLock rfl
  · exact h

/-- A lock that was switched off is on again at the end. -/
lemma putBack (c : Bool) :
    Light d maskKey (if c then switched .capsLock T else T) (r.putBack c) := by
  have hr := h.course hk hl ((Course.refl r).reconcile r.restored .both)
  unfold Run.putBack
  split_ifs with hc
  · exact hr.tapLock rfl
  · exact hr

end Light

end Run

namespace Engine

variable {e : Engine Desktop} {o : SendOptions}

lemma heldDown_eq_empty {p : Desktop} (hdown : ∀ v, v ∉ p.down) (hphysical : p.physical = ∅) :
    heldDown p = ∅ := by
  refine Mask.eq_empty_iff.mpr fun m hm => ?_
  rw [mem_heldDown] at hm
  exact hdown _ ((Desktop.isDown_key (by simp [hphysical])).mp hm)

/-- With nothing down and nothing remapped there is nothing to put back. -/
lemma restored_opened (hdown : ∀ v, v ∉ e.platform.down) (hphysical : e.platform.physical = ∅)
    (hremapped : e.ledger.remapped = ∅) (ts : List Token) : (e.opened ts o).restored = ∅ := by
  have hl := heldDown_eq_empty hdown hphysical
  have hguess : e.resync.guessHeld = ∅ := by
    unfold guessHeld
    split_ifs
    · exact hphysical
    · exact hl
    · rfl
  change e.ledger.persistent ∩ (heldDown e.platform \ _) ∪ e.ledger.remapped ∪ e.resync.guessHeld ∪
    ((Token.exclusions ts).map (heldDown e.platform \ ·)).getD ∅ = ∅
  rw [hl, hremapped, hguess]
  refine Mask.eq_empty_iff.mpr fun m => ?_
  cases Token.exclusions ts <;> simp

/-- When a text of presses has been typed nothing is down, and the locks are as before. -/
lemma light_typed (hdown : ∀ v, v ∉ e.platform.down) (hphysical : e.platform.physical = ∅)
    (hremapped : e.ledger.remapped = ∅) (hcache : e.Truthful)
    (hmask : SidedKey e.maskKey.1 e.maskKey.2) (h0 : e.maskKey.1 ≠ 0)
    (hlock : e.maskKey.1.isLock = false) {ts : List Token} (hs : ∀ t ∈ ts, t.Sided)
    (hp : ∀ t ∈ ts, t.Presses)
    (hd : ∀ ds, .asc ds ∈ ts → ∀ c ∈ ds.toList, c.isDigit = true) :
    Run.Light e.platform e.maskKey (· ∈ e.platform.toggled) (e.typed ts o) ∧
      (e.typed ts o).ledger.logical = ∅ := by
  have hland : (landing e.maskKey.1 e.maskKey.2).isLock = false :=
    isLock_landing (by rwa [if_neg h0])
  have hr : Run.Light e.platform e.maskKey (· ∈ e.platform.toggled) (e.opened ts o) :=
    ⟨follows_opened hcache (e.platform.hasAltGr_focused _) ts,
      ⟨fun v hv => absurd hv (hdown v), fun _ => Iff.rfl⟩,
      restored_opened hdown hphysical hremapped ts⟩
  have hq := hr.interpret hmask hland hs hp hd
  set c := (e.opened ts o).storesCapsLock
  have hback : Run.Light _ _ _ (e.typed ts o) := hq.putBack hmask hland c
  have htwice : (if c then switched .capsLock (if c then switched .capsLock
      (· ∈ e.platform.toggled) else (· ∈ e.platform.toggled)) else if c then
      switched .capsLock (· ∈ e.platform.toggled) else (· ∈ e.platform.toggled)) =
      (· ∈ e.platform.toggled) := by
    split_ifs
    · exact switched_switched _ _
    · rfl
  rw [htwice] at hback
  refine ⟨hback, Mask.eq_empty_iff.mpr fun m hm => Mask.not_mem_empty m ?_⟩
  have hsub := Run.logical_putBack_subset _ (hq.follows.maskKey ▸ h0) c
  rw [hq.restored, Mask.empty_settled] at hsub
  exact Mask.subset_iff.mp hsub m hm

/-- A send gets through whole, or nothing of it does. -/
lemma keys_sendRun (hworks : e.platform.failing = false) (ts : List Token) :
    ((e.sendRun ts o).platform.keys = ((e.typed ts o).desk e.platform).keys ∧
      (e.sendRun ts o).ledger = (e.typed ts o).ledger) ∨
    ((e.sendRun ts o).platform.keys = e.platform.keys ∧
      (e.sendRun ts o).ledger.toHolds = e.resync.ledger.snapshot) := by
  cases ending_sendRun (e := e) (o := o) (fun _ => hworks) ts with
  | whole hk hl => exact .inl ⟨hk, hl⟩
  | nothing hk hl => exact .inr ⟨hk, hl⟩
  | part ht hi _ => exact absurd (Desktop.inject_eq_ok hi).1 (Nat.ne_of_lt ht)

/-- Whatever of a text's presses gets through, nothing stays down and no lock changes. -/
theorem sendRun_rests (hworks : e.platform.failing = false) (hdown : ∀ v, v ∉ e.platform.down)
    (hphysical : e.platform.physical = ∅) (hremapped : e.ledger.remapped = ∅)
    (hcache : e.Truthful) (hmask : SidedKey e.maskKey.1 e.maskKey.2) (h0 : e.maskKey.1 ≠ 0)
    (hlock : e.maskKey.1.isLock = false) {ts : List Token} (hs : ∀ t ∈ ts, t.Sided)
    (hp : ∀ t ∈ ts, t.Presses)
    (hd : ∀ ds, .asc ds ∈ ts → ∀ c ∈ ds.toList, c.isDigit = true) :
    (∀ v, v ∉ (e.sendRun ts o).platform.down) ∧ (e.sendRun ts o).ledger.logical = ∅ ∧
      ∀ v, v ∈ (e.sendRun ts o).platform.toggled ↔ v ∈ e.platform.toggled := by
  obtain ⟨hback, hl⟩ : Run.Light e.platform e.maskKey (· ∈ e.platform.toggled) (e.typed ts o) ∧
      (e.typed ts o).ledger.logical = ∅ :=
    light_typed hdown hphysical hremapped hcache hmask h0 hlock hs hp hd
  obtain ⟨hk, hledger⟩ | ⟨hk, hholds⟩ := keys_sendRun (e := e) (o := o) hworks ts
  · refine ⟨fun v hv => ?_, by rw [hledger, hl], fun v => ?_⟩
    · rw [Desktop.keys_down hk] at hv
      obtain ⟨m, rfl⟩ := hback.rests.down v hv
      have hm := (hback.follows.tracks.mem m (by simp [hphysical])).mpr hv
      rw [hl] at hm
      exact Mask.not_mem_empty m hm
    · rw [Desktop.keys_toggled hk]
      exact hback.rests.toggled v
  · refine ⟨fun v hv => ?_, ?_, fun v => ?_⟩
    · rw [Desktop.keys_down hk] at hv
      exact hdown v hv
    · exact (congrArg (·.logical) hholds).trans (heldDown_eq_empty hdown hphysical)
    · rw [Desktop.keys_toggled hk]

/-- **Nothing stays down and no lock changes** when a text only presses keys, however the send ends:
if nothing was down before, nothing is down after it. The ledger says so too, unless the text is
empty; then nothing is done at all. -/
theorem send_rests {e : Engine Desktop} {text : String} {o : SendOptions}
    (hworks : e.platform.failing = false) (hdown : ∀ v, v ∉ e.platform.down)
    (hphysical : e.platform.physical = ∅) (hremapped : e.ledger.remapped = ∅)
    (hcache : e.Truthful) (h0 : e.maskKey.1 ≠ 0) (hlock : e.maskKey.1.isLock = false)
    (hmask : SidedKey e.maskKey.1 e.maskKey.2)
    (hsided : ∀ t ∈ Token.ofText o.raw text, t.Sided)
    (hpress : ∀ t ∈ Token.ofText o.raw text, t.Presses) :
    (∀ v, v ∉ (e.send text o).2.platform.down) ∧
      (∀ v, Platform.isToggled (e.send text o).2.platform v = Platform.isToggled e.platform v) ∧
      (e.send text o).2.ledger.logical = if text = "" then e.ledger.logical else ∅ := by
  by_cases htext : text = ""
  · have hts : Token.ofText o.raw text = [] := by
      rw [htext]
      simp [Token.ofText, Token.ofChars]
    have hs : (e.send text o).2 = e := by simp [send, hts]
    rw [hs, if_pos htext]
    exact ⟨hdown, fun _ => rfl, rfl⟩
  · have hts : Token.ofText o.raw text ≠ [] := fun h => htext (Token.ofText_eq_nil h)
    have hs : (e.send text o).2 = (e.sendRun (Token.ofText o.raw text) o).toEngine := by
      simp [send, hts, Run.outcome]
    obtain ⟨hd, hl, ht⟩ := sendRun_rests hworks hdown hphysical hremapped hcache hmask h0 hlock
      hsided hpress (fun _ h => (Token.digits_of_mem_ofText h).2)
    rw [hs, if_neg htext]
    exact ⟨hd, fun v => decide_eq_decide.mpr (ht v), hl⟩

/-- CapsLock is on when Control and a letter are sent. -/
theorem send_rests_of_capsLock :
    let e := Engine.new { Desktop.new with toggled := KeySet.assign ∅ .capsLock true } {}
    (∀ v, v ∉ (e.send "^a" .plain).2.platform.down) ∧
      (∀ v, Platform.isToggled (e.send "^a" .plain).2.platform v =
        Platform.isToggled e.platform v) ∧
      (e.send "^a" .plain).2.ledger.logical = if "^a" = "" then e.ledger.logical else ∅ := by
  have hts : Token.ofText .notRaw "^a" = [.modifier lctrl, .char 'a'] := by
    simp [Token.ofText, Token.ofChars, Token.ofChar, ofSymbol?]
  have hmem : ∀ t ∈ Token.ofText SendOptions.plain.raw "^a",
      t = .modifier lctrl ∨ t = .char 'a' := by
    intro t ht
    change t ∈ Token.ofText .notRaw "^a" at ht
    rwa [hts, List.mem_cons, List.mem_singleton] at ht
  refine send_rests rfl KeySet.not_mem_empty rfl rfl (fun _ _ h => absurd h List.not_mem_nil)
    (by decide) (by decide) (sidedKey_modifier lctrl) (fun t ht => ?_) (fun t ht => ?_)
  · rcases hmem t ht with rfl | rfl <;> trivial
  · rcases hmem t ht with rfl | rfl <;> trivial

/-- An empty text does not even look at the system: what the ledger holds stays there. -/
theorem send_empty_keeps_logical :
    ¬∀ (e : Engine Desktop) (text : String) (o : SendOptions), e.platform.failing = false →
      (∀ v, v ∉ e.platform.down) → e.platform.physical = ∅ → e.ledger.remapped = ∅ → e.Truthful →
      e.maskKey.1 ≠ 0 → e.maskKey.1.isLock = false → SidedKey e.maskKey.1 e.maskKey.2 →
      (∀ t ∈ Token.ofText o.raw text, t.Sided) → (∀ t ∈ Token.ofText o.raw text, t.Presses) →
      (e.send text o).2.ledger.logical = ∅ := by
  intro h
  have hts : Token.ofText SendOptions.plain.raw "" = [] := by
    simp [Token.ofText, Token.ofChars]
  let l : Ledger := { Ledger.empty with logical := {lshift} }
  have hl := h { Engine.new Desktop.new {} with ledger := l } "" .plain rfl KeySet.not_mem_empty
    rfl rfl (fun _ _ h => absurd h List.not_mem_nil) (by decide) (by decide)
    (sidedKey_modifier lctrl) (by simp [hts]) (by simp [hts])
  rw [send, hts] at hl
  exact absurd hl (by decide)

end Engine

end KeySynth
