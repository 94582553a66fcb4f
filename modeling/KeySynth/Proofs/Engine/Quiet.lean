import KeySynth.Proofs.Desktop.Rests
import KeySynth.Proofs.Engine.Journal
import KeySynth.Proofs.Modifier.Discretion
import KeySynth.Proofs.Script.Tokens

/-!
No Win or Alt key goes up in the open.

A Win or Alt key that goes up opens a menu unless another key has moved since it went down, or
another modifier covers it. A mask key that is a Control key or no modifier disguises every change
that the engine makes for itself; after a key has been struck no disguise is needed.
-/

namespace KeySynth

open Modifier

namespace EventRecord

/-- The event moves the key of `m`. -/
def IsKey (m : Modifier) (up : Bool) : EventRecord → Prop
  | .key k => ofKey? k.vk = some m ∧ k.up = up
  | .mouse _ | .delay _ => False

/-- The event moves a key, but not that of `m`. -/
def IsOther (m : Modifier) : EventRecord → Prop
  | .key k => ofKey? k.vk ≠ some m
  | .mouse _ | .delay _ => False

/-- The event moves no Win or Alt key. -/
def Tame (e : EventRecord) : Prop := ∀ m ∈ Mask.win ∪ Mask.alt, ∀ up, ¬e.IsKey m up

end EventRecord

/-- Since the key of `m` last went down, or from the start if it has not, another key has moved. -/
def Stirred (m : Modifier) (j : List Emission) : Prop :=
  ∃ u em v, j = u ++ em :: v ∧ em.event.IsOther m ∧ ∀ x ∈ u, ¬x.event.IsKey m false

/-- Each key that goes up and could open a menu is covered or comes after another key. -/
def Quiet (altgr : Bool) : List Emission → Prop
  | [] => True
  | em :: j => Quiet altgr j ∧ ∀ m : Modifier, m.OpensMenu altgr → em.event.IsKey m true →
      em.held.meets m.cover = true ∨ Stirred m j

lemma Quiet.of_append {altgr : Bool} {u v : List Emission} (h : Quiet altgr (u ++ v)) :
    Quiet altgr v := by
  induction u with
  | nil => exact h
  | cons em u ih => exact ih h.1

lemma Stirred.cons {m : Modifier} {j : List Emission} (h : Stirred m j) {em : Emission}
    (he : ¬em.event.IsKey m false) : Stirred m (em :: j) := by
  obtain ⟨u, x, v, rfl, hx, hu⟩ := h
  refine ⟨em :: u, x, v, rfl, hx, fun y hy => ?_⟩
  rcases List.mem_cons.mp hy with rfl | hy
  · exact he
  · exact hu y hy

lemma stirred_cons {m : Modifier} {em : Emission} (he : em.event.IsOther m) (j : List Emission) :
    Stirred m (em :: j) :=
  ⟨[], em, j, rfl, he, by simp⟩

namespace Run

variable {P : Type} [Platform P] {r s : Run P}

/-- Nothing has gone up in the open, and the mask key is a Control key or no modifier. -/
structure Calm (r : Run P) : Prop where
  mask : r.maskKey.1 ≠ 0 ∧ ∀ m ∈ Mask.ofKey r.maskKey.1, m ∈ Mask.ctrl
  quiet : Quiet r.altgr r.journal

/-- Another key has moved since any Win or Alt key went down. -/
def Busy (r : Run P) : Prop := ∀ m ∈ Mask.win ∪ Mask.alt, Stirred m r.journal

/-- A key of which no stroke moves a Win or Alt key. -/
def TameKey (P : Type) [Platform P] : StrokeLaw := fun _ vk sc =>
  ∀ (s : Run P) up info, (s.keyEvent vk sc up info).Tame

lemma isOther_keyEvent {vk : VirtualKey} {sc : ScanCode} {up : Bool} {info : Tag}
    (h : (r.keyEvent vk sc up info).Tame) {m : Modifier} (hm : m ∈ Mask.win ∪ Mask.alt) :
    (r.keyEvent vk sc up info).IsOther m := fun hk => h m hm up ⟨hk, rfl⟩

lemma isKey_keyEvent {m n : Modifier} {sc : ScanCode} {up up' : Bool} {info : Tag} :
    (r.keyEvent m.key sc up info).IsKey n up' ↔ n = m ∧ up' = up := by
  simp [keyEvent, EventRecord.IsKey, @eq_comm _ m n, @eq_comm _ up up']

lemma tame_keyEvent {vk : VirtualKey} (h0 : vk ≠ 0)
    (h : ∀ m ∈ Mask.ofKey vk, m ∉ Mask.win ∪ Mask.alt) (sc : ScanCode) (up : Bool) (info : Tag) :
    (r.keyEvent vk sc up info).Tame := by
  intro m hm up' hk
  simp only [keyEvent, if_neg h0, EventRecord.IsKey] at hk
  exact h m (Mask.mem_ofKey.mpr hk.1) hm

namespace Calm

variable (h : r.Calm)
include h

omit [Platform P] in
lemma congr (hm : s.maskKey = r.maskKey) (ha : s.altgr = r.altgr) (hj : s.journal = r.journal) :
    s.Calm :=
  ⟨by rw [hm]; exact h.mask, by rw [ha, hj]; exact h.quiet⟩

omit [Platform P] in
lemma plainMask : PlainMask r.maskKey := by
  refine ⟨h.mask.1, fun m hm => ?_⟩
  have := h.mask.2 m hm
  revert this
  cases m <;> decide

lemma emit {e : EventRecord} (he : ∀ m : Modifier, m.OpensMenu r.altgr → e.IsKey m true →
    r.ledger.logical.meets m.cover = true ∨ Stirred m r.journal) : (r.emit e).Calm := by
  have hs := r.still_emit e
  refine ⟨still_maskKey hs ▸ h.mask, ?_⟩
  rw [still_altgr hs, journal_emit]
  exact ⟨h.quiet, he⟩

lemma emit_tame {e : EventRecord} (he : e.Tame) : (r.emit e).Calm :=
  h.emit fun m hm hk => absurd hk (he m hm.1 true)

lemma pause (p : Pause) : (r.pause p).Calm := by
  have hs := r.still_pause p
  exact h.congr (still_maskKey hs) (still_altgr hs) (r.journal_pause p)

lemma flows (hf : Flows EventRecord.Tame r s) : s.Calm :=
  hf.invariant (fun _ _ he hs => hs.emit_tame he) (fun _ p _ hs => hs.pause p) h

omit [Platform P] in
lemma iterate {f : Run P → Run P} (hf : ∀ s, s.Calm → (f s).Calm) (n : Nat) :
    (Nat.repeat f n r).Calm := by
  induction n with
  | zero => exact h
  | succ n ih => exact hf _ ih

lemma tame_mask (up : Bool) : (r.keyEvent r.maskKey.1 r.maskKey.2 up .ignore).Tame :=
  tame_keyEvent h.mask.1 h.plainMask.2 _ _ _

lemma maskTap : Flows EventRecord.Tame r r.maskDown.maskUp := by
  have hd : Flows EventRecord.Tame r r.maskDown := (Flows.refl r).emit (h.tame_mask false)
  exact hd.emit ((h.flows hd).tame_mask true)

end Calm

lemma stirred_emit {m : Modifier} (h : Stirred m r.journal) {e : EventRecord}
    (he : ¬e.IsKey m false) : Stirred m (r.emit e).journal := by
  rw [journal_emit]
  exact h.cons he

lemma Busy.pause (h : r.Busy) (p : Pause) : (r.pause p).Busy := by
  intro m hm
  rw [journal_pause]
  exact h m hm

lemma busy_emitKey {vk : VirtualKey} {sc : ScanCode} {up : Bool} {info : Tag}
    (h : (r.keyEvent vk sc up info).Tame) : (r.emitKey vk sc up info).Busy := by
  intro m hm
  rw [emitKey_eq, journal_emit]
  exact stirred_cons (isOther_keyEvent h hm) _

/-- After a stroke of another key nothing opens a menu. -/
lemma busy_strike {motion : KeyMotion} {vk : VirtualKey} {sc : ScanCode}
    (h : TameKey P motion vk sc) (r : Run P) : (r.strike motion vk sc).Busy := by
  cases motion with
  | down => exact busy_emitKey (h r false _)
  | up => exact busy_emitKey (h r true _)
  | downUp => exact busy_emitKey (h _ true _)

/-! ### Plans -/

/-- What holds after the steps `u` of the plan for a change that begins at `r`. -/
structure Hush (c : Plan.Change) (r : Run P) (u : List Step) (s : Run P) : Prop where
  leaves : Leaves r u s
  calm : s.Calm
  /-- What has been stirred stays so if it is not pressed. -/
  stirred : ∀ m : Modifier, m.OpensMenu r.altgr → ¬c.presses m → Stirred m r.journal →
    Stirred m s.journal
  /-- A tap is as good as it looks. -/
  tapped : (∃ v, u = v ++ [Step.maskDown] ++ [Step.maskUp]) →
    s.Busy ∨ s.ledger.logical.meets .ctrl = true

namespace Hush

variable {c : Plan.Change} {u : List Step} (h : Hush c r u s) (ha : c.altgr = r.altgr)
include h ha

lemma press {m : Modifier} (hm : c.Allows u (.press m)) :
    Hush c r (u ++ [Step.press m]) (s.emitModifier m false) where
  leaves := h.leaves.press m
  calm := h.calm.emit fun n _ hk => by
    have := (isKey_keyEvent.mp hk).2
    cases this
  stirred n hn hp hs := by
    refine stirred_emit (h.stirred n hn hp hs) fun hk => hp ?_
    obtain rfl := (isKey_keyEvent.mp hk).1
    exact hm (ha ▸ hn)
  tapped := by
    rintro ⟨v, hv⟩
    cases (List.append_inj' hv rfl).2

lemma release {m : Modifier} (hold : c.old = r.ledger.logical)
    (hstir : c.disguise.up = false → ∀ m : Modifier, m.OpensMenu r.altgr → c.releases m →
      Stirred m r.journal) (hm : c.Allows u (.release m)) :
    Hush c r (u ++ [Step.release m]) (s.emitModifier m true) where
  leaves := h.leaves.release m
  calm := h.calm.emit fun n hn hk => by
    obtain rfl := (isKey_keyEvent.mp hk).1
    rw [still_altgr h.leaves.still] at hn
    obtain ⟨hr, hcov | hup | htap⟩ := hm (ha ▸ hn)
    · rw [hold, ha, ← h.leaves.eq (still_maskKey h.leaves.still ▸ h.calm.plainMask)] at hcov
      exact .inl hcov
    · exact .inr (h.stirred n hn (fun hp => hp.1 hr.1) (hstir hup n hn hr))
    · rcases h.tapped htap with hb | hctrl
      · exact .inr (hb n hn.1)
      · obtain ⟨q, hq, hc⟩ := Mask.meets_iff.mp hctrl
        exact .inl (Mask.meets_iff.mpr ⟨q, hq, mem_cover_of_ctrl hc⟩)
  stirred n hn hp hs := by
    refine stirred_emit (h.stirred n hn hp hs) fun hk => ?_
    cases (isKey_keyEvent.mp hk).2
  tapped := by
    rintro ⟨v, hv⟩
    cases (List.append_inj' hv rfl).2

omit ha in
lemma tap : Hush c r (u ++ [Step.maskDown] ++ [Step.maskUp])
    (if s.maskHeld then s else s.maskDown.maskUp) := by
  have h0 : r.maskKey.1 ≠ 0 := still_maskKey h.leaves.still ▸ h.calm.mask.1
  split_ifs with hh
  · refine ⟨h.leaves.congr (by rw [replay_snoc, replay_snoc]; rfl), h.calm, h.stirred,
      fun _ => .inr ?_⟩
    obtain ⟨q, hq, hk⟩ := Mask.meets_iff.mp (show s.ledger.logical.meets _ = true from hh)
    exact Mask.meets_iff.mpr ⟨q, hq, h.calm.mask.2 q hk⟩
  · have hbusy : s.maskDown.maskUp.Busy :=
      busy_emitKey ((h.calm.flows ((Flows.refl s).emit (h.calm.tame_mask false))).tame_mask true)
    exact ⟨h.leaves.tap h0 hh, h.calm.flows h.calm.maskTap, fun m hm _ _ => hbusy m hm.1,
      fun _ => .inl hbusy⟩

lemma tapRound {m : Modifier} (hm : m ∈ Mask.win ∪ Mask.alt) (hd : m.drags r.altgr = {m})
    (hp : c.Allows (u ++ [Step.maskDown]) (.press m)) :
    Hush c r (u ++ [Step.maskDown] ++ [Step.press m] ++ [Step.maskUp])
      (if s.maskHeld then s.emitModifier m false
        else (s.maskDown.emitModifier m false).maskUp) := by
  have hbare : ∀ v, u ++ [Step.maskDown] ++ [Step.press m] ++ [Step.maskUp] ≠
      v ++ [Step.maskDown] ++ [Step.maskUp] := by
    intro v hv
    cases (List.append_inj' (List.append_inj' hv rfl).1 rfl).2
  split_ifs with hh
  · have hpress := h.press ha (m := m) hp
    exact ⟨hpress.leaves.congr (by simp only [replay_snoc, Step.apply]), hpress.calm,
      hpress.stirred, fun ⟨v, hv⟩ => absurd hv (hbare v)⟩
  · have hdown := h.calm.tame_mask false
    have hin : (s.maskDown.emitModifier m false).Calm := (h.calm.emit_tame hdown).emit fun n _ hk =>
      Bool.noConfusion (isKey_keyEvent.mp hk).2
    refine ⟨h.leaves.tapRound (still_maskKey h.leaves.still ▸ h.calm.mask.1) hm hd hh,
      hin.emit_tame (hin.tame_mask true), fun n hn hpn hs => ?_, fun ⟨v, hv⟩ => absurd hv (hbare v)⟩
    have h1 : Stirred n s.maskDown.journal :=
      stirred_emit (h.stirred n hn hpn hs) (hdown n hn.1 false)
    have h2 : Stirred n (s.maskDown.emitModifier m false).journal := by
      refine stirred_emit h1 fun hk => hpn ?_
      obtain rfl := (isKey_keyEvent.mp hk).1
      exact hp (ha ▸ hn)
    exact stirred_emit h2 (hin.tame_mask true n hn.1 false)

end Hush

namespace Calm

variable (h : r.Calm)
include h

/-- Discreet steps are quiet if what is not disguised has been stirred. -/
lemma playSteps {c : Plan.Change} (hold : c.old = r.ledger.logical) (ha : c.altgr = r.altgr)
    (hstir : c.disguise.up = false → ∀ m : Modifier, m.OpensMenu r.altgr → c.releases m →
      Stirred m r.journal)
    {u : List Step} (ho : Orderly r.altgr u) (hu : Plan.Discreet c u) : (r.playSteps u).Calm := by
  have hnil : Hush c r [] r :=
    ⟨⟨rfl, Mask.subset_refl _, fun _ => rfl⟩, h, fun _ _ _ hs => hs, fun ⟨v, hv⟩ => by simp at hv⟩
  have key := r.playing_induction (I := fun u s => Plan.Discreet c u → Hush c r u s)
    (fun _ => hnil) ?press ?release ?tap ?round ho
  · obtain ⟨s, hs, hI⟩ := key
    rw [Run.playSteps, hs]
    exact (hI hu).calm
  case press =>
    intro u s m ih hu
    obtain ⟨hu, hm⟩ := Plan.discreet_snoc.mp hu
    exact (ih hu).press ha hm
  case release =>
    intro u s m ih hu
    obtain ⟨hu, hm⟩ := Plan.discreet_snoc.mp hu
    exact (ih hu).release ha hold hstir hm
  case tap =>
    intro u s ih hu
    exact (ih (Plan.discreet_snoc.mp (Plan.discreet_snoc.mp hu).1).1).tap
  case round =>
    intro u s m hm hd ih hu
    obtain ⟨hu, hp⟩ := Plan.discreet_snoc.mp (Plan.discreet_snoc.mp hu).1
    exact (ih (Plan.discreet_snoc.mp hu).1).tapRound ha hm hd hp

/-- **Bringing the modifiers anywhere is quiet**, in the open only for keys that have been
stirred. -/
theorem reconcile (desired : Mask) (w : Disguise)
    (hstir : w.up = false → ∀ m : Modifier, m.OpensMenu r.altgr → m ∈ r.ledger.logical →
      m ∉ desired → Stirred m r.journal) : (r.reconcile desired w).Calm := by
  unfold Run.reconcile
  dsimp only
  have hp := h.playSteps (c := ⟨r.ledger.logical, desired.settled r.altgr, r.altgr, w⟩) rfl rfl
    (fun hw m hm hr => hstir hw m hm hr.1 fun hd =>
      hr.2 (Mask.subset_iff.mp (Mask.subset_settled _ _) m hd))
    (Plan.orderly_make desired r.ledger.logical r.altgr w)
    (Plan.discreet_make desired r.ledger.logical r.altgr w)
  split_ifs
  · exact h
  · exact hp
  · exact hp.pause _

lemma reconcile_disguised (desired : Mask) {w : Disguise} (hw : w.up = true) :
    (r.reconcile desired w).Calm :=
  h.reconcile desired w fun hw' => absurd (hw.symm.trans hw') (by decide)

lemma ready : r.ready.Calm := h.reconcile_disguised _ rfl

/-! ### Keys and characters -/

lemma strike {motion : KeyMotion} {vk : VirtualKey} {sc : ScanCode}
    (hK : TameKey P motion vk sc) : (r.strike motion vk sc).Calm :=
  h.flows ((Flows.refl r).strike motion fun t up => hK t up _)

lemma dropAdded (hb : r.Busy) (mods : Mask) : (r.dropAdded mods).Calm := by
  have hrec : ∀ desired, (r.reconcile desired .downOnly).Calm := fun desired =>
    h.reconcile desired _ fun _ m hm _ _ => hb m hm.1
  unfold Run.dropAdded
  dsimp only
  split_ifs
  · exact hrec _
  · exact hrec _
  · exact h

lemma sendKeyOnce {motion : KeyMotion} {vk : VirtualKey} {sc : ScanCode}
    (hK : TameKey P motion vk sc) (mods : Mask) : (r.sendKeyOnce vk sc mods motion).Calm := by
  have hready := h.reconcile_disguised (mods ∪ r.kept) (w := .both) rfl
  exact ((hready.strike hK).pause _).dropAdded ((busy_strike hK _).pause _) mods

lemma sendKey {motion : KeyMotion} {vk : VirtualKey} {sc : ScanCode}
    (hK : TameKey P motion vk sc) (mods : Mask) (turns : Nat) :
    (r.sendKey vk sc mods motion turns).Calm :=
  h.iterate (fun _ hs => hs.sendKeyOnce hK mods) turns

lemma turnModifier {vk : VirtualKey} {sc : ScanCode} {action : KeyAction}
    (hK : TameKey P action.motion vk sc) (m : Modifier) :
    (r.turnModifier m vk sc action).Calm := by
  unfold Run.turnModifier
  dsimp only
  have hrec := h.reconcile_disguised ((r.wanted \ {m}) ∪ (r.ledger.logical ∩ {m})) (w := .both) rfl
  refine Calm.pause (Calm.strike ?_ hK) _
  split_ifs
  · exact hrec.flows hrec.maskTap
  · exact hrec

lemma sendModifierKey {vk : VirtualKey} {sc : ScanCode} {action : KeyAction}
    (hK : TameKey P action.motion vk sc) (m : Modifier) :
    (r.sendModifierKey m vk sc action).Calm := by
  have hturns := h.iterate (fun _ hs => hs.turnModifier hK m) action.turns
  unfold Run.sendModifierKey
  cases action <;> exact hturns.congr rfl rfl rfl

lemma emitUnit (unit : UInt16) (up : Bool) : (r.emitUnit unit up).Calm :=
  h.emit_tame fun _ _ _ hk => nomatch hk.1

lemma sendCodePoint (cp : Nat) (motion : KeyMotion) : (r.sendCodePoint cp motion).Calm := by
  unfold Run.sendCodePoint
  split_ifs
  · refine Calm.pause ?_ _
    have hmotion : ∀ (s : Run P) unit, s.Calm → (s.emitUnitMotion motion unit).Calm := by
      intro s unit hs
      cases motion with
      | down => exact hs.emitUnit unit false
      | up => exact hs.emitUnit unit true
      | downUp => exact (hs.emitUnit unit false).emitUnit unit true
    exact List.foldlRecOn _ _ h.ready fun s hs unit _ => hmotion s unit hs
  · exact h

lemma sendChar {motion : KeyMotion} (hK : CharStrokes P (TameKey P) motion) (c : Char) :
    (r.sendChar c motion).Calm := by
  unfold Run.sendChar
  split_ifs
  · exact h.sendKey hK.enter _ 1
  · exact h.sendKey hK.tab _ 1
  · exact h.sendCodePoint _ _
  · split
    · rename_i k hk
      exact h.sendKey (hK.chord _ _ _ _ hk) _ 1
    · exact h.sendCodePoint _ _

lemma tapLock {vk : VirtualKey} (hK : TameKey P .downUp vk 0) : (r.tapLock vk).Calm :=
  (h.strike hK).pause _

end Calm

lemma tameKey_isLock {vk : VirtualKey} (h : vk.isLock = true) (motion : KeyMotion)
    (sc : ScanCode) : TameKey P motion vk sc := by
  simp only [VirtualKey.isLock, Bool.or_eq_true, beq_iff_eq] at h
  have hk : vk ≠ 0 ∧ Mask.ofKey vk = ∅ := by
    rcases h with (rfl | rfl) | rfl <;> exact ⟨by decide, by decide⟩
  exact fun s up info => tame_keyEvent hk.1 (by simp [hk.2]) sc up info

namespace Calm

variable (h : r.Calm)
include h

/-- Once digits have been struck nothing opens a menu. -/
lemma typeDigits {cs : List Char} (hb : cs ≠ [] ∨ r.Busy) (hcs : ∀ c ∈ cs,
      TameKey P .downUp (VirtualKey.numpad0 + (c.toNat - '0'.toNat).toUInt8) 0) :
    (cs.foldl typeDigit r).Calm ∧ (cs.foldl typeDigit r).Busy := by
  induction cs generalizing r with
  | nil => exact ⟨h, hb.resolve_left (by simp)⟩
  | cons c cs ih =>
    have hc := hcs c (by simp)
    have hbusy : (r.typeDigit c).Busy := (busy_strike hc r).pause _
    exact ih ((h.strike hc).pause _) (.inr hbusy) fun d hd => hcs d (by simp [hd])

/-- The digits of a character code are struck while Alt is down, so Alt goes up in the open. -/
lemma sendAsc {digits : String} (hK : Strokes P (TameKey P) (.asc digits)) (hne : digits ≠ "") :
    (r.sendAsc digits).Calm := by
  have hsome : digits.toList ≠ [] := fun h => hne (String.toList_eq_nil_iff.mp h)
  have htyped : ∀ q : Run P, q.Calm →
      ∀ desired, ((digits.toList.foldl typeDigit q).reconcile desired .none).Calm := by
    intro q hq desired
    obtain ⟨hc, hb⟩ := hq.typeDigits (.inl hsome) hK
    exact hc.reconcile desired _ fun _ m hm _ _ => hb m hm.1
  unfold Run.sendAsc
  dsimp only
  split_ifs
  · have hn : TameKey P .downUp .numLock 0 := tameKey_isLock rfl _ _
    exact (htyped _ ((h.tapLock hn).reconcile_disguised _ rfl) _).tapLock hn
  · exact htyped _ (h.reconcile_disguised _ rfl) _

lemma click (spec : ClickSpec) : (r.click spec).Calm :=
  click_invariant (fun _ _ hs => hs.emit_tame fun _ _ _ hk => hk) (fun _ p hs => hs.pause p)
    (fun _ _ hs => hs.congr rfl rfl rfl) h spec

/-! ### Texts -/

lemma sendTarget {target : KeyTarget} {action : KeyAction}
    (hK : Strokes P (TameKey P) (.key target action)) : (r.sendTarget target action).Calm := by
  match target with
  | .char c => exact h.iterate (fun _ hs => hs.sendChar hK c) action.turns
  | .named (.mouse b) => exact h.ready.click _
  | .named (.key vk sc) =>
    have hK' : TameKey P action.motion (r.resolved vk sc) sc := hK r.platform r.layout
    cases hm : ofKey? (r.resolved vk sc) with
    | some m =>
      rw [sendTarget_modifier r hm]
      exact h.sendModifierKey hK' m
    | none =>
      rw [sendTarget_key r hm]
      exact h.sendKey hK' _ _

lemma act {t : Token} (hK : Strokes P (TameKey P) t) (hne : t ≠ .asc "") : (r.act t).Calm := by
  match t with
  | .blind _ | .raw | .text | .invalidUnicode _ | .unknown _ => exact h.congr rfl rfl rfl
  | .modifier m =>
    change (r.addMod m).Calm
    unfold addMod
    split_ifs
    · exact h
    · exact h.congr rfl rfl rfl
  | .char c => exact (h.sendChar hK c).congr rfl rfl rfl
  | .key target action => exact (h.sendTarget hK).congr rfl rfl rfl
  | .click spec => exact (h.ready.click spec).congr rfl rfl rfl
  | .asc digits =>
    exact (h.sendAsc hK fun hd => hne (by rw [hd])).congr rfl rfl rfl
  | .unicode cp => exact (h.sendCodePoint cp .downUp).congr rfl rfl rfl

lemma storeCapsLock : r.storeCapsLock.Calm := by
  unfold Run.storeCapsLock
  split_ifs
  · exact h.tapLock (tameKey_isLock rfl _ _)
  · exact h

lemma putBack (capsLock : Bool) : (r.putBack capsLock).Calm := by
  have hrec := h.reconcile_disguised r.restored (w := .both) rfl
  unfold Run.putBack
  split_ifs
  · exact hrec.tapLock (tameKey_isLock rfl _ _)
  · exact hrec

lemma leave (capsLock : Bool) : (r.leave capsLock).Calm := by
  obtain ⟨s, p, l, b, hs, he⟩ := r.leave_eq capsLock
  rw [he]
  rcases hs with rfl | rfl
  · exact h.congr rfl rfl rfl
  · exact (h.putBack capsLock).congr rfl rfl rfl

lemma type {ts : List Token} (hK : ∀ t ∈ ts, Strokes P (TameKey P) t) (hne : .asc "" ∉ ts) :
    (r.type ts).Calm :=
  Calm.leave (interpret_invariant
    (fun _ t ht hs => hs.act (hK t ht) fun h => hne (h ▸ ht)) h.storeCapsLock) _

end Calm

end Run

/-! ### Desktops -/

/-- It does not name a Win or Alt key. -/
def Token.Tame : Token → Prop
  | .key (.named (.key vk sc)) _ =>
    ∀ m ∈ Mask.ofKey (if vk = 0 then sc.key else vk), m ∉ Mask.win ∪ Mask.alt
  | _ => True

namespace Run

lemma tameKey_of_ofKey {motion : KeyMotion} {vk : VirtualKey} {sc : ScanCode}
    (h : ∀ m ∈ Mask.ofKey (if vk = 0 then sc.key else vk), m ∉ Mask.win ∪ Mask.alt) :
    TameKey Desktop motion vk sc :=
  fun _ _ _ m hm _ hk => h m (Mask.mem_ofKey.mpr hk.1) hm

lemma tameKey_typing {motion : KeyMotion} {vk : VirtualKey} (h : vk.Typing) :
    TameKey Desktop motion vk 0 := by
  refine tameKey_of_ofKey fun m hm => ?_
  rw [if_neg h.ne_zero, Mask.mem_ofKey, h.ofKey?] at hm
  cases hm

lemma strokes_tame {t : Token} (h : t.Tame)
    (hd : ∀ ds, t = .asc ds → ∀ c ∈ ds.toList, c.isDigit = true) :
    Strokes Desktop (TameKey Desktop) t := by
  have hc : ∀ motion, CharStrokes Desktop (TameKey Desktop) motion := fun _ =>
    ⟨tameKey_typing (by decide), tameKey_typing (by decide), fun _ _ _ _ hk =>
      tameKey_typing (Desktop.typing_chord? hk)⟩
  match t with
  | .char c => exact hc _
  | .key (.char c) a => exact hc _
  | .key (.named (.mouse b)) a => exact trivial
  | .key (.named (.key vk sc)) a =>
    refine fun p l => tameKey_of_ofKey ?_
    have hsame : (if (if vk = 0 then sc.key else vk) = 0 then sc.key
        else if vk = 0 then sc.key else vk) = if vk = 0 then sc.key else vk := by
      split_ifs <;> simp_all
    change ∀ m ∈ Mask.ofKey (if (if vk = 0 then sc.key else vk) = 0 then sc.key
        else if vk = 0 then sc.key else vk), m ∉ _
    rw [hsame]
    exact h
  | .asc ds => exact fun c hc => tameKey_typing (.of_digit (hd ds rfl c hc))
  | .modifier _ | .click _ | .raw | .text | .blind _ | .unicode _ | .invalidUnicode _
  | .unknown _ => exact trivial

end Run

namespace Engine

/-- **No Win or Alt key is let go of in the open.** If the text names no such key and the mask key
is a Control key or no modifier, then whenever a key goes up that could open a menu, another
modifier covers it or another key has moved since it went down. -/
theorem covered_or_stirred {e : Engine Desktop} {text : String} {o : SendOptions}
    (h0 : e.maskKey.1 ≠ 0) (hmask : ∀ m ∈ Mask.ofKey e.maskKey.1, m ∈ Mask.ctrl)
    (hkeys : ∀ t ∈ Token.ofText o.raw text, t.Tame) {later earlier : List Emission} {em : Emission}
    (hj : (e.sendRun (Token.ofText o.raw text) o).journal = later ++ em :: earlier)
    {m : Modifier} (hm : m.OpensMenu (e.ledger.hasAltGr
      (Platform.focusedLayout e.platform o.target) (Platform.hasAltGr e.platform)).1)
    (hup : em.event.IsKey m true) :
    em.held.meets m.cover = true ∨ Stirred m earlier := by
  have hopen : (e.opened (Token.ofText o.raw text) o).Calm := ⟨⟨h0, hmask⟩, trivial⟩
  have hcalm : (e.sendRun (Token.ofText o.raw text) o).Calm := hopen.type
    (fun t ht => Run.strokes_tame (hkeys t ht) fun ds hds =>
      (Token.digits_of_mem_ofText (hds ▸ ht)).2) fun ht => (Token.digits_of_mem_ofText ht).1 rfl
  have hq := hcalm.quiet
  rw [hj, altgr_sendRun] at hq
  exact hq.of_append.2 m hm hup

/-- Alt goes up in the open after the letter that it was held for. -/
theorem covered_or_stirred_of_alt :
    ∃ em earlier, ((Engine.new Desktop.new {}).sendRun (Token.ofText .notRaw "!a") .plain).journal =
        em :: earlier ∧
      em.event.IsKey lalt true ∧ (em.held.meets lalt.cover = true ∨ Stirred lalt earlier) := by
  have hts : Token.ofText .notRaw "!a" = [.modifier lalt, .char 'a'] := by
    simp [Token.ofText, Token.ofChars, Token.ofChar, ofSymbol?]
  obtain ⟨em, earlier, hj, hup⟩ : ∃ em earlier,
      ((Engine.new Desktop.new {}).sendRun (Token.ofText .notRaw "!a") .plain).journal =
        em :: earlier ∧ em.event.IsKey lalt true := by
    rw [hts]
    exact ⟨_, _, rfl, rfl, rfl⟩
  rw [← List.nil_append (em :: earlier)] at hj
  refine ⟨em, earlier, hj, hup, covered_or_stirred (o := .plain) (by decide) ?_ ?_ hj
    ⟨by decide, by decide⟩ hup⟩
  · intro m hm
    cases Mask.mem_ofKey.mp hm
    decide
  · intro t ht
    change t ∈ Token.ofText .notRaw "!a" at ht
    rw [hts, List.mem_cons, List.mem_singleton] at ht
    rcases ht with rfl | rfl <;> trivial

end Engine

end KeySynth
