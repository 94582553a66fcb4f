import KeySynth.Proofs.Engine.View

/-!
What holds of a run from token to token.

A token strikes keys, sends characters, clicks, and brings the modifiers to a set that keeps down
those of them that are kept. Whatever each of that keeps is kept by a text. What does not follow
from single mouse events is kept as far as the clicks keep it.
-/

namespace KeySynth

open Modifier

namespace Run

variable {P : Type} [Platform P]

/-- `I` is kept by all that a token may do with keys: by strokes that meet `K`, packets and pauses,
plans that keep down what is kept, taps of the mask key before a bare release, and notes on
modifiers that are `named`. -/
structure KeyUpkeep (K : StrokeLaw) (named : Modifier → Prop) (I : Run P → Prop) : Prop where
  stroke {r : Run P} {motion : KeyMotion} {vk : VirtualKey} {sc : ScanCode} :
    K motion vk sc → I r → I (r.strike motion vk sc)
  unit {r : Run P} (unit : UInt16) (up : Bool) : I r → I (r.emitUnit unit up)
  pause {r : Run P} (p : Pause) : I r → I (r.pause p)
  reconcile {r : Run P} {desired : Mask} (w : Disguise) :
    r.kept ∩ r.ledger.logical ⊆ desired → I r → I (r.reconcile desired w)
  tap {r : Run P} {m : Modifier} :
    named m → r.releaseIsBare m = true → I r → I r.maskDown.maskUp
  note {r : Run P} {m : Modifier} (e : Explicit) : named m → I r → I (r.noteExplicit m e)
  session {r : Run P} (mode : RawMode) (mods : Mask) (fault : Option Fault) :
    I r → I { r with raw := mode, keyMods := mods, fault }

/-- `I` is kept by all that a token may do, mouse events among it. -/
structure Upkeep (K : StrokeLaw) (named : Modifier → Prop) (I : Run P → Prop) : Prop
    extends KeyUpkeep K named I where
  mouse {r : Run P} (m : MouseRecord) : I r → I (r.emit (.mouse m))

/-- What a character may come to while `I` holds. -/
structure CharLaw (K : StrokeLaw) (I : Run P → Prop) (motion : KeyMotion) : Prop where
  enter : K motion .enter 0
  tab : K motion .tab 0
  chord {r : Run P} {c : Char} {k : Chord} :
    I r → Platform.chord? r.platform c r.layout = some k → K motion k.vk 0

/-- While `I` holds the strokes of a token meet `K` and the modifiers it names are `named`. -/
def Heeds (K : StrokeLaw) (named : Modifier → Prop) (I : Run P → Prop) : Token → Prop
  | .char _ => CharLaw K I .downUp
  | .key (.char _) a => CharLaw K I a.motion
  | .key (.named (.key vk sc)) a => ∀ r : Run P, I r → K a.motion (r.resolved vk sc) sc ∧
      ∀ m, ofKey? (r.resolved vk sc) = some m → named m
  | .asc ds => K .downUp .numLock 0 ∧
      ∀ c ∈ ds.toList, K .downUp (VirtualKey.numpad0 + (c.toNat - '0'.toNat).toUInt8) 0
  | _ => True

lemma heeds_any {I : Run P → Prop} (t : Token) :
    Heeds (fun _ _ _ => True) (fun _ => True) I t := by
  have hchar : ∀ motion, CharLaw (fun _ _ _ => True) I motion := fun _ =>
    ⟨trivial, trivial, fun _ _ => trivial⟩
  match t with
  | .char c => exact hchar _
  | .key (.char c) a => exact hchar _
  | .key (.named (.key vk sc)) a => exact fun _ _ => ⟨trivial, fun _ _ => trivial⟩
  | .asc ds => exact ⟨trivial, fun _ _ => trivial⟩
  | .key (.named (.mouse b)) a => exact trivial
  | .modifier _ | .click _ | .raw | .text | .blind _ | .unicode _ | .invalidUnicode _
  | .unknown _ => exact trivial

omit [Platform P] in
lemma inter_subset_union_kept (r : Run P) (mods : Mask) :
    r.kept ∩ r.ledger.logical ⊆ mods ∪ r.kept :=
  Mask.subset_iff.mpr fun _ hm => Mask.mem_union.mpr (.inr (Mask.mem_inter.mp hm).1)

omit [Platform P] in
lemma kept_subset_wanted (r : Run P) : r.kept ⊆ r.wanted :=
  Mask.subset_iff.mpr fun m hm => by
    rw [wanted, Mask.union_assoc]
    exact Mask.mem_union.mpr (.inr hm)

omit [Platform P] in
lemma kept_subset_restored (r : Run P) : r.kept ⊆ r.restored :=
  Mask.subset_iff.mpr fun m hm => by
    simp only [kept, restored, Mask.mem_union] at hm ⊢
    tauto

namespace KeyUpkeep

variable {K : StrokeLaw} {named : Modifier → Prop} {I : Run P → Prop} (u : KeyUpkeep K named I)
  {r : Run P}
include u

lemma reconcile_of_kept {desired : Mask} (w : Disguise) (h : r.kept ⊆ desired) (hr : I r) :
    I (r.reconcile desired w) :=
  u.reconcile w (Mask.subset_trans (Mask.subset_iff.mpr fun _ hm => (Mask.mem_inter.mp hm).1) h) hr

lemma ready (hr : I r) : I r.ready := u.reconcile_of_kept .both r.kept_subset_wanted hr

omit [Platform P] u in
lemma iterate {f : Run P → Run P} (hf : ∀ s, I s → I (f s)) (n : Nat) (hr : I r) :
    I (Nat.repeat f n r) := by
  induction n with
  | zero => exact hr
  | succ n ih => exact hf _ ih

/-- What is not kept may be let go of. -/
lemma letGo {gone : Mask} (hgone : ∀ m ∈ r.kept, m ∉ gone) (w : Disguise) (hr : I r) :
    I (r.reconcile (r.ledger.logical \ gone) w) :=
  u.reconcile w (Mask.subset_iff.mpr fun m hm => by
    rw [Mask.mem_inter] at hm
    exact Mask.mem_sdiff.mpr ⟨hm.2, hgone m hm.1⟩) hr

lemma dropAdded (mods : Mask) (hr : I r) : I (r.dropAdded mods) := by
  have hadded : ∀ m ∈ r.kept, m ∉ (mods ∩ (.win ∪ .alt)) \ r.kept := fun m hm hn =>
    (Mask.mem_sdiff.mp hn).2 hm
  unfold Run.dropAdded
  dsimp only
  split_ifs with hmeets haltgr
  · refine u.letGo (fun m hm hn => ?_) .downOnly hr
    rcases Mask.mem_union.mp hn with hn | hn
    · exact hadded m hm hn
    · rw [Mask.mem_singleton] at hn
      exact haltgr.2.2 (Mask.mem_union.mpr (.inr (hn ▸ hm)))
  · exact u.letGo hadded .downOnly hr
  · exact hr

lemma sendKeyOnce {motion : KeyMotion} {vk : VirtualKey} {sc : ScanCode} (hK : K motion vk sc)
    (mods : Mask) (hr : I r) : I (r.sendKeyOnce vk sc mods motion) :=
  u.dropAdded mods (u.pause _ (u.stroke hK
    (u.reconcile .both (r.inter_subset_union_kept mods) hr)))

lemma sendKey {motion : KeyMotion} {vk : VirtualKey} {sc : ScanCode} (hK : K motion vk sc)
    (mods : Mask) (turns : Nat) (hr : I r) : I (r.sendKey vk sc mods motion turns) :=
  iterate (fun _ hs => u.sendKeyOnce hK mods hs) turns hr

lemma turnModifier {m : Modifier} (hm : named m) {action : KeyAction} {vk : VirtualKey}
    {sc : ScanCode} (hK : K action.motion vk sc) (hr : I r) :
    I (r.turnModifier m vk sc action) := by
  have hguard : r.kept ∩ r.ledger.logical ⊆ (r.wanted \ {m}) ∪ (r.ledger.logical ∩ {m}) := by
    refine Mask.subset_iff.mpr fun n hn => ?_
    rw [Mask.mem_inter] at hn
    have hw := Mask.subset_iff.mp r.kept_subset_wanted n hn.1
    simp only [Mask.mem_union, Mask.mem_sdiff, Mask.mem_inter]
    tauto
  have hrec := u.reconcile .both hguard hr
  unfold Run.turnModifier
  dsimp only
  refine u.pause _ (u.stroke hK ?_)
  split_ifs with hbare
  · exact u.tap hm hbare.2 hrec
  · exact hrec

lemma sendModifierKey {m : Modifier} (hm : named m) {action : KeyAction} {vk : VirtualKey}
    {sc : ScanCode} (hK : K action.motion vk sc) (hr : I r) :
    I (r.sendModifierKey m vk sc action) := by
  have hturns := iterate (fun _ hs => u.turnModifier hm hK hs) action.turns hr
  unfold Run.sendModifierKey
  cases action with
  | down => exact u.note .down hm hturns
  | downRemap => exact u.note .downRemapped hm hturns
  | up => exact u.note .up hm hturns
  | downTemp | press _ => exact hturns

lemma sendCodePoint (cp : Nat) (motion : KeyMotion) (hr : I r) :
    I (r.sendCodePoint cp motion) := by
  unfold Run.sendCodePoint
  split_ifs
  · have hmotion : ∀ (s : Run P) unit, I s → I (s.emitUnitMotion motion unit) := by
      intro s unit hs
      cases motion with
      | down => exact u.unit unit false hs
      | up => exact u.unit unit true hs
      | downUp => exact u.unit unit true (u.unit unit false hs)
    exact u.pause _ (List.foldlRecOn _ _ (u.ready hr) fun s hs unit _ => hmotion s unit hs)
  · exact hr

lemma sendChar {motion : KeyMotion} (hK : CharLaw K I motion) (c : Char) (hr : I r) :
    I (r.sendChar c motion) := by
  unfold Run.sendChar
  split_ifs
  · exact u.sendKey hK.enter _ 1 hr
  · exact u.sendKey hK.tab _ 1 hr
  · exact u.sendCodePoint _ _ hr
  · split
    · rename_i k hk
      exact u.sendKey (hK.chord hr hk) _ 1 hr
    · exact u.sendCodePoint _ _ hr

lemma tapLock {vk : VirtualKey} (hK : K .downUp vk 0) (hr : I r) : I (r.tapLock vk) :=
  u.pause _ (u.stroke hK hr)

lemma sendAsc {digits : String} (hK : Heeds K named I (.asc digits)) (hr : I r) :
    I (r.sendAsc digits) := by
  have hpressed : ∀ s : Run P, I s → I (s.reconcile (s.wanted ∪ {lalt}) .upOnly) := fun s hs =>
    u.reconcile_of_kept _ (Mask.subset_trans s.kept_subset_wanted
      (Mask.subset_iff.mpr fun m hm => Mask.mem_union.mpr (.inl hm))) hs
  have htyped : ∀ s : Run P, I s → I (digits.toList.foldl typeDigit s) := fun s hs =>
    List.foldlRecOn _ _ hs fun t ht c hc => u.pause _ (u.stroke (hK.2 c hc) ht)
  have hreleased : ∀ s : Run P, I s →
      I (s.reconcile (s.ledger.logical \ ({lalt} \ s.wanted)) .none) := fun s hs =>
    u.letGo (fun m hm hn => (Mask.mem_sdiff.mp hn).2
      (Mask.subset_iff.mp s.kept_subset_wanted m hm)) _ hs
  unfold Run.sendAsc
  dsimp only
  split_ifs
  · exact u.tapLock hK.1 (hreleased _ (htyped _ (hpressed _ (u.tapLock hK.1 hr))))
  · exact hreleased _ (htyped _ (hpressed _ hr))

lemma fail (f : Fault) (hr : I r) : I (r.fail f) := u.session r.raw r.keyMods (some f) hr

lemma clearMods (hr : I r) : I r.clearMods := u.session r.raw ∅ r.fault hr

/-- **What keys keep is kept by a token**, if it is by the click that the token comes to. -/
theorem act {t : Token} (hK : Heeds K named I t)
    (hclick : ∀ spec, View.Clicks spec t → ∀ {s : Run P}, I s → I (s.click spec)) (hr : I r) :
    I (r.act t) := by
  match t with
  | .blind _ => exact hr
  | .raw => exact u.session .raw r.keyMods r.fault hr
  | .text => exact u.session .rawText r.keyMods r.fault hr
  | .invalidUnicode _ => exact u.fail _ hr
  | .unknown _ => exact u.clearMods hr
  | .modifier m =>
    change I (r.addMod m)
    unfold addMod
    split_ifs
    · exact hr
    · exact u.session r.raw (r.keyMods ∪ {m}) r.fault hr
  | .char c => exact u.clearMods (u.sendChar hK c hr)
  | .key (.char c) action =>
    exact u.clearMods (iterate (fun _ hs => u.sendChar hK c hs) action.turns hr)
  | .key (.named (.mouse b)) action => exact u.clearMods (hclick _ rfl (u.ready hr))
  | .key (.named (.key vk sc)) action =>
    refine u.clearMods ?_
    obtain ⟨hstroke, hnamed⟩ := hK r hr
    cases hm : ofKey? (r.resolved vk sc) with
    | some m =>
      rw [sendTarget_modifier r hm]
      exact u.sendModifierKey (hnamed m hm) hstroke hr
    | none =>
      rw [sendTarget_key r hm]
      exact u.sendKey hstroke _ _ hr
  | .click spec => exact u.clearMods (hclick spec rfl (u.ready hr))
  | .asc digits => exact u.clearMods (u.sendAsc hK hr)
  | .unicode cp => exact u.clearMods (u.sendCodePoint cp .downUp hr)

variable (hcaps : K .downUp .capsLock 0)
include hcaps

lemma storeCapsLock (hr : I r) : I r.storeCapsLock := by
  unfold Run.storeCapsLock
  split_ifs
  · exact u.tapLock hcaps hr
  · exact hr

lemma putBack (capsLock : Bool) (hr : I r) : I (r.putBack capsLock) := by
  have hrec := u.reconcile_of_kept .both r.kept_subset_restored hr
  unfold Run.putBack
  split_ifs
  · exact u.tapLock hcaps hrec
  · exact hrec

end KeyUpkeep

namespace Upkeep

variable {K : StrokeLaw} {named : Modifier → Prop} {I : Run P → Prop} (u : Upkeep K named I)
  {r : Run P}
include u

lemma click (spec : ClickSpec) (hr : I r) : I (r.click spec) :=
  click_invariant (fun _ m hs => u.mouse m hs) (fun _ p hs => u.pause p hs)
    (fun _ f hs => u.fail f hs) hr spec

/-- **What all that a token may do keeps is kept by a text.** -/
theorem interpret {ts : List Token} (hK : ∀ t ∈ ts, Heeds K named I t) (hr : I r) :
    I (r.interpret ts) :=
  interpret_invariant
    (fun _ t ht hs => u.act (hK t ht) (fun spec _ _ hs => u.click spec hs) hs) hr

end Upkeep

end Run

namespace Engine

variable {P : Type} [Platform P] {K : StrokeLaw} {named : Modifier → Prop} {I : Run P → Prop}

/-- The same for a whole text, up to when its events are on their way. -/
theorem typed_upkeep (u : Run.Upkeep K named I) (hcaps : K .downUp .capsLock 0) {e : Engine P}
    {ts : List Token} {o : SendOptions} (hK : ∀ t ∈ ts, Run.Heeds K named I t)
    (h : I (e.opened ts o)) : I (e.upTo ts o ts) ∧ I (e.typed ts o) := by
  have hup : I (e.upTo ts o ts) := u.interpret hK (u.storeCapsLock hcaps h)
  exact ⟨hup, u.putBack hcaps _ hup⟩

end Engine

end KeySynth
