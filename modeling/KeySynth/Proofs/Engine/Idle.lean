import KeySynth.Proofs.Engine.Balance
import KeySynth.Proofs.Engine.Upkeep

/-!
Keys and characters of a run that has nothing to hold.

With nothing asked for and nothing to put back, a key goes by as what it is and a character as its
units.
-/

namespace KeySynth

open Modifier Recorder

lemma EventRecord.carried_packet (b : Backend) (tag : Tag) (unit : UInt16) (up : Bool) :
    (packet tag unit up).carried b = packet tag unit up := by
  cases b <;> rfl

namespace Run

variable {P : Type}

/-- No modifier is asked for, none is to be put back, and nothing has gone wrong. -/
structure Idle (r : Run P) : Prop where
  keyMods : r.keyMods = ∅
  restored : r.restored = ∅
  fault : r.fault = none

namespace Idle

variable {r s : Run P} (h : r.Idle)
include h

lemma of_still (hs : s.still = r.still) : s.Idle where
  keyMods := (still_keyMods hs).trans h.keyMods
  restored := (still_restored hs).trans h.restored
  fault := (congrArg (·.fault) hs).trans h.fault

lemma remapped : r.ledger.remapped = ∅ :=
  Mask.eq_empty_iff.mpr fun m hm => Mask.eq_empty_iff.mp h.restored m (by
    simp only [Run.restored, Mask.mem_union]
    tauto)

lemma kept : r.kept = ∅ := by
  have hsub := r.kept_subset_restored
  rw [h.restored] at hsub
  exact Mask.eq_empty_iff.mpr fun m hm =>
    Mask.not_mem_empty m (Mask.subset_iff.mp hsub m hm)

lemma wanted : r.wanted = ∅ := by
  have hk := h.kept
  unfold Run.kept at hk
  rw [Run.wanted, Mask.union_assoc, hk, h.keyMods]
  decide

end Idle

variable [Platform P]

/-- With no modifier down and none wanted there is nothing to do. -/
lemma reconcile_empty {r : Run P} (h : r.ledger.logical = ∅) (w : Disguise) :
    r.reconcile ∅ w = r := by
  have hplan : Plan.make ∅ ∅ r.altgr w = ⟨[], ∅⟩ := if_pos (Mask.empty_settled _)
  unfold Run.reconcile
  rw [h, hplan]
  rfl

/-- Where neither Win nor Alt was asked for there is nothing to let go of. -/
lemma dropAdded_eq {mods : Mask} (h : mods ∩ (Mask.win ∪ Mask.alt) = ∅) (r : Run P) :
    r.dropAdded mods = r := by
  have hnone : (mods ∩ (Mask.win ∪ Mask.alt)) \ r.kept = ∅ := by
    rw [h]
    exact Mask.eq_empty_iff.mpr fun m hm => Mask.not_mem_empty m (Mask.mem_sdiff.mp hm).1
  unfold dropAdded
  dsimp only
  rw [hnone, if_neg]
  simp [Mask.meets_iff]

/-- A key without a side goes by as what it is. -/
lemma carried_side [Recorder P] (vk : VirtualKey) (h0 : vk ≠ 0) (hm : ofKey? vk = none)
    (sc : ScanCode) (r : Run P) (up : Bool) (info : Tag) : ∃ k : KeyRecord,
    (r.keyEvent vk sc up info).carried r.backend = .key k ∧ k.unicode = false ∧ k.up = up ∧
      Desktop.keyOf k = vk ∧ k.vk = vk := by
  have hsided : SidedKey vk sc := fun m hk => by
    rw [if_neg h0, hm] at hk
    cases hk
  obtain ⟨k, hc, hu, hup, hkey, hvk⟩ := r.carried_keyEvent hsided up info r.backend
  have hland : landing vk sc = vk := by simp [landing, h0, hm]
  have hn := VirtualKey.ofKey?_neutral hm
  exact ⟨k, hc, hu, hup, hkey.trans hland, (hvk h0).elim id (·.trans hn)⟩

lemma logical_emitUnit (r : Run P) (unit : UInt16) (up : Bool) :
    (r.emitUnit unit up).ledger.logical = r.ledger.logical := by
  have hm : ofKey? VirtualKey.packet = none := by decide
  rw [emitUnit, ledger_emit, Ledger.note, Ledger.logical_noteKey, Ledger.moved_of_none hm,
    Mask.assign_empty]

lemma sent_emitUnit (r : Run P) (unit : UInt16) (up : Bool) :
    (r.emitUnit unit up).sent = r.sent ++ [.packet r.tag unit up] :=
  (r.sent_emit (.packet r.tag unit up)).trans (by rw [EventRecord.carried_packet])

/-- Units that go down and up again one by one leave all but what is sent as it is. -/
lemma foldl_emitUnit (units : List UInt16) (r : Run P) :
    (units.foldl (·.emitUnitMotion .downUp ·) r).still = r.still ∧
      (units.foldl (·.emitUnitMotion .downUp ·) r).ledger.logical = r.ledger.logical ∧
      (units.foldl (·.emitUnitMotion .downUp ·) r).sent =
        r.sent ++ EventRecord.packets r.tag units := by
  induction units generalizing r with
  | nil => exact ⟨rfl, rfl, (List.append_nil _).symm⟩
  | cons u units ih =>
    have hs : (r.emitUnitMotion .downUp u).still = r.still :=
      ((r.emitUnit u false).still_emit _).trans (r.still_emit _)
    have hl : (r.emitUnitMotion .downUp u).ledger.logical = r.ledger.logical := by
      rw [emitUnitMotion, logical_emitUnit, logical_emitUnit]
    have hsent : (r.emitUnitMotion .downUp u).sent =
        r.sent ++ [.packet r.tag u false, .packet r.tag u true] := by
      have htag : (r.emitUnit u false).tag = r.tag := still_tag (r.still_emit _)
      rw [emitUnitMotion, sent_emitUnit, sent_emitUnit, htag, List.append_assoc]
      rfl
    obtain ⟨ihs, ihl, ihsent⟩ := ih (r.emitUnitMotion .downUp u)
    refine ⟨ihs.trans hs, ihl.trans hl, ihsent.trans ?_⟩
    rw [hsent, still_tag hs, List.append_assoc]
    rfl

end Run

end KeySynth
