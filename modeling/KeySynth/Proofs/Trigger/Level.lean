import KeySynth.Proofs.Pointer.Words
import KeySynth.Proofs.Trigger.Decision

/-!
The level that input must be above to fire a variant.

A variant and a tag both tell their level in a word, and the two are compared with a sign. This
compares the levels themselves as long as that of the variant is below `2 ^ 31`; from there on a
level counts as negative, and hardly any input is not above it. Input that is not above the level
of a variant passes it over.
-/

namespace KeySynth

/-! ### Levels in words -/

namespace Text

lemma toInt_toInt32 (w : UInt32) : w.toInt32.toInt = Text.signed w :=
  Path.Words.toInt_eq w.toInt32

lemma signed_of_lt {w : UInt32} (h : w.toNat < 2 ^ 31) : Text.signed w = w.toNat := if_pos h

lemma signed_of_ge {w : UInt32} (h : 2 ^ 31 ≤ w.toNat) : Text.signed w = w.toNat - 2 ^ 32 :=
  if_neg (Nat.not_lt.mpr h)

/-- Words on one side of the change of sign keep their order. -/
lemma signed_le_signed {w x : UInt32} (h : w ≤ x)
    (hside : x.toNat < 2 ^ 31 ∨ 2 ^ 31 ≤ w.toNat) : Text.signed w ≤ Text.signed x := by
  have hle : w.toNat ≤ x.toNat := UInt32.le_iff_toNat_le.mp h
  rcases hside with hlow | hhigh
  · rw [signed_of_lt hlow, signed_of_lt (by omega)]
    omega
  · rw [signed_of_ge hhigh, signed_of_ge (by omega)]
    omega

end Text

namespace Tag

/-- The level in a tag, worked out in words with a sign. -/
def levelWord (t : Tag) : Int32 :=
  if lowest ≤ t ∧ t ≤ ignore then levelZero.toInt32 - t.toInt32
  else maxLevel.toUInt32.toInt32 + 1

variable (t : Tag)

lemma ours_iff : lowest ≤ t ∧ t ≤ ignore ↔ 4291023849 ≤ t.toNat ∧ t.toNat ≤ 4291023951 :=
  and_congr UInt32.le_iff_toNat_le UInt32.le_iff_toNat_le

lemma level_eq : t.level =
    if 4291023849 ≤ t.toNat ∧ t.toNat ≤ 4291023951 then 4291023949 - (t.toNat : Int) else 101 := by
  simp only [level, ours_iff]
  rfl

lemma level_bounds : -2 ≤ t.level ∧ t.level ≤ 101 := by
  rw [level_eq]
  split_ifs <;> omega

/-- What others send is above every level that there is. -/
lemma level_eq_above : t.level = 101 ↔ ¬(lowest ≤ t ∧ t ≤ ignore) := by
  rw [level_eq, ours_iff]
  split_ifs <;> omega

/-- The words of tags are far from the ends, so their difference does not wrap round. -/
lemma toInt_levelWord : t.levelWord.toInt = t.level := by
  rw [level_eq]
  simp only [levelWord, ours_iff]
  split_ifs with h
  · have hzero : levelZero.toNat = 4291023949 := by decide
    rw [Int32.toInt_sub, Text.toInt_toInt32, Text.toInt_toInt32, Text.signed_of_ge (by omega),
      Text.signed_of_ge (by omega), Int.bmod_eq_of_le (by omega) (by omega)]
    omega
  · decide

variable {level : UInt32}

lemma toNat_ofLevel (h : level.toNat ≤ maxLevel) :
    (ofLevel level).toNat = levelZero.toNat - level.toNat := by
  have hmax : maxLevel ≤ levelZero.toNat := by decide
  exact UInt32.toNat_sub_of_le _ _ (UInt32.le_iff_toNat_le.mpr (h.trans hmax))

/-- A tag tells its level. -/
lemma level_ofLevel (h : level.toNat ≤ maxLevel) : (ofLevel level).level = level.toNat := by
  have hzero : levelZero.toNat = 4291023949 := by decide
  have hmax : maxLevel = 100 := rfl
  rw [level_eq, toNat_ofLevel h, if_pos (by omega)]
  omega

lemma ofLevel_ne_ignore (h : level.toNat ≤ maxLevel) : ofLevel level ≠ ignore := fun heq => by
  have hlevel := level_ofLevel h
  rw [heq] at hlevel
  have hignore : ignore.level = -2 := by decide
  omega

end Tag

namespace Variant

variable {v : Variant} {info : Tag}

lemma allows_eq_words (v : Variant) (info : Tag) :
    v.allows info = decide (v.inputLevel.toInt32 < info.levelWord) := by
  rw [allows, decide_eq_decide, Int32.lt_iff_toInt_lt, Text.toInt_toInt32, Tag.toInt_levelWord]

lemma allows_iff (h : v.inputLevel.toNat < 2 ^ 31) :
    v.allows info = true ↔ (v.inputLevel.toNat : Int) < info.level := by
  rw [allows, decide_eq_true_iff, Text.signed_of_lt h]

lemma allows_eq_false_of_le (h : v.inputLevel.toNat < 2 ^ 31)
    (hinfo : info.level ≤ v.inputLevel.toNat) : v.allows info = false :=
  Bool.eq_false_iff.mpr fun hallows => Int.not_lt.mpr hinfo ((allows_iff h).mp hallows)

/-- A variant does not listen to events of its own level or below, or to those that every hook is
to ignore. -/
lemma allows_eq_false {level : UInt32} (hlevel : level ≤ v.inputLevel)
    (hmax : v.inputLevel.toNat ≤ Tag.maxLevel)
    (hinfo : info = Tag.ofLevel level ∨ info = Tag.ignore) : v.allows info = false := by
  have hle : level.toNat ≤ v.inputLevel.toNat := UInt32.le_iff_toNat_le.mp hlevel
  have hmaxLevel : Tag.maxLevel = 100 := rfl
  refine allows_eq_false_of_le (by omega) ?_
  rcases hinfo with rfl | rfl
  · rw [Tag.level_ofLevel (hle.trans hmax)]
    omega
  · have hignore : Tag.ignore.level = -2 := by decide
    omega

lemma eligible_of_raised {conditions : Nat → Bool} (level : UInt32)
    (hlevel : Text.signed v.inputLevel ≤ Text.signed level)
    (h : { v with inputLevel := level }.eligible conditions info = true) :
    v.eligible conditions info = true := by
  obtain ⟨hallows, hholds⟩ := Bool.and_eq_true_iff.mp h
  have habove : Text.signed level < info.level := of_decide_eq_true hallows
  exact Bool.and_eq_true_iff.mpr ⟨decide_eq_true (Int.lt_of_le_of_lt hlevel habove), hholds⟩

end Variant

namespace Registry

/-! ### Input that passes a variant over -/

section PassesOver

variable {r r' : Registry} {id j : TriggerId} {i : Nat} {info : Tag} {a : Admission} {v : Variant}

/-- A variant is neither launched nor changed nor queued. -/
structure PassesOver (r : Registry) (j : TriggerId) (i : Nat) (a : Admission) (r' : Registry) :
    Prop where
  launched : a ≠ .launched j i
  variant : r'.variant? j i = r.variant? j i
  queue : r'.pending.filter (fun p => p.id = j ∧ p.variant = i) =
    r.pending.filter (fun p => p.id = j ∧ p.variant = i)

/-- Input that a variant does not listen to passes it over. -/
lemma Fired.passesOver (h : Fired r id info a r') (hv : r.variant? j i = some v)
    (hallows : v.allows info = false) : r.PassesOver j i a r' := by
  have hother : ∀ k w, r.variant? id k = some w → w.allows info = true → ¬(j = id ∧ i = k) := by
    rintro k w hw hallowed ⟨rfl, rfl⟩
    obtain rfl := Option.some_inj.mp (hv.symm.trans hw)
    exact absurd hallowed (by simp [hallows])
  cases h with
  | ignored => exact ⟨nofun, rfl, rfl⟩
  | @launched k w hw hallowed _ =>
    refine ⟨fun heq => hother k w hw hallowed ?_, ?_, rfl⟩
    · obtain ⟨rfl, rfl⟩ := Admission.launched.inj heq
      exact ⟨rfl, rfl⟩
    · refine variant?_modifyVariant.trans ?_
      simp [hother k w hw hallowed]
  | @runAgain k w hw hallowed _ =>
    refine ⟨nofun, ?_, rfl⟩
    rw [variant?_modifyVariant]
    simp [hother k w hw hallowed]
  | @queued k w hw hallowed _ =>
    refine ⟨nofun, rfl, ?_⟩
    have hne : ¬(id = j ∧ k = i) := fun heq => hother k w hw hallowed ⟨heq.1.symm, heq.2.symm⟩
    simp [List.filter_append, hne]

end PassesOver

/-! ### The choice under a higher level -/

/-- A variant that is chosen is chosen still if it alone may fire on more. -/
lemma choose_of_more {vs ws : List Variant} {eligible : Nat → Variant → Bool} {hint : Option Nat}
    {i : Nat} (hsame : ∀ k, k ≠ i → ws[k]? = vs[k]?)
    (hmore : ∀ q, ws[i]?.any (eligible q) = true → vs[i]?.any (eligible q) = true)
    (h : choose ws eligible hint = some i) : choose vs eligible hint = some i := by
  by_cases hasked : hint = some i ∧ vs[i]?.any (eligible 0) = true
  · exact choose_eq_some.mpr (.inl hasked)
  rcases choose_eq_some.mp h with ⟨hhint, hi⟩ | ⟨hhint, hi, hbefore⟩
  · exact absurd ⟨hhint, hmore 0 hi⟩ hasked
  · refine choose_eq_some.mpr (.inr ⟨fun k hk => ?_, hmore _ hi, fun k hk => ?_⟩)
    · by_cases hki : k = i
      · subst hki
        exact Bool.eq_false_iff.mpr fun hany => hasked ⟨hk, hany⟩
      · exact hsame k hki ▸ hhint k hk
    · exact hsame k (Nat.ne_of_lt hk) ▸ hbefore k hk

variable {r : Registry} {answers : Answers} {id : TriggerId} {info : Tag} {hint : Option Nat}
  {ledger : Ledger} {now : Nat} {i : Nat} {v : Variant} {a : Admission} {level : UInt32}

/-- The registry with another level of variant `i`. -/
def relevel (r : Registry) (id : TriggerId) (i : Nat) (level : UInt32) : Registry :=
  r.modifyVariant id i ({ · with inputLevel := level })

/-- Input with the tag `info` fires variant `i`: it goes to the variant, which is launched, queued
or set to run again, as the answer says. -/
def Fires (r : Registry) (answers : Answers) (id : TriggerId) (info : Tag) (hint : Option Nat)
    (ledger : Ledger) (now : Nat) (i : Nat) (a : Admission) : Prop :=
  r.chosen? answers id info hint = some i ∧
    (r.fireUnder answers id info hint ledger now).toOption.map (·.1) = some a

lemma fireUnder_of_chosen (hchosen : r.chosen? answers id info hint = some i)
    (hv : r.variant? id i = some v) (ledger : Ledger) (now : Nat) :
    r.fireUnder answers id info hint ledger now = .ok (r.respond id i v info ledger now) := by
  obtain ⟨t, ht, hi⟩ := variant?_eq_some.mp hv
  rw [chosen?, ht, Option.bind_some] at hchosen
  simp only [fireUnder, ht, hchosen, hi]

lemma chosen?_of_relevel (hv : r.variant? id i = some v)
    (hlevel : Text.signed v.inputLevel ≤ Text.signed level)
    (h : (r.relevel id i level).chosen? answers id info hint = some i) :
    r.chosen? answers id info hint = some i := by
  obtain ⟨t, ht, hi⟩ := variant?_eq_some.mp hv
  rw [chosen?, relevel, get?_modifyVariant, ht, Option.map_some, if_pos rfl, Option.bind_some] at h
  rw [chosen?, ht, Option.bind_some]
  refine choose_of_more (fun k hk => ?_) (fun q => ?_) h
  · simp [Trigger.modify, Ne.symm hk]
  · simpa [Trigger.modify, hi] using Variant.eligible_of_raised level hlevel

/-- The answer does not depend on the level. -/
lemma respond_relevel (r : Registry) (id : TriggerId) (i : Nat) (v : Variant) (level : UInt32)
    (info : Tag) (ledger : Ledger) (now : Nat) :
    ((r.relevel id i level).respond id i { v with inputLevel := level } info ledger now).1 =
      (r.respond id i v info ledger now).1 := by
  have hgate : (r.relevel id i level).gate { v with inputLevel := level } = r.gate v := rfl
  unfold respond
  rw [hgate]
  cases r.gate v <;> rfl

lemma Fires.allows (h : r.Fires answers id info hint ledger now i a)
    (hv : r.variant? id i = some v) : v.allows info = true := by
  obtain ⟨r', ledger', hfire⟩ := exists_of_answer h.2
  rcases eq_of_fireUnder hfire with ⟨hnone, -⟩ | ⟨k, w, hk, hw, hallows, -⟩
  · cases hnone.symm.trans h.1
  · obtain rfl : k = i := Option.some_inj.mp (hk.symm.trans h.1)
    obtain rfl : w = v := Option.some_inj.mp (hw.symm.trans hv)
    exact hallows

/-- Input that is not ignored fires a variant. -/
lemma exists_fires {r' : Registry} {ledger' : Ledger}
    (hfire : r.fireUnder answers id info hint ledger now = .ok (a, r', ledger'))
    (ha : a ≠ .ignored) : ∃ i v, r.variant? id i = some v ∧
      r.Fires answers id info hint ledger now i a ∧
        (a, r', ledger') = r.respond id i v info ledger now := by
  rcases eq_of_fireUnder hfire with ⟨-, heq⟩ | ⟨i, v, hi, hv, -, heq⟩
  · exact absurd (Prod.mk.inj heq).1 ha
  · exact ⟨i, v, hv, ⟨hi, by rw [hfire]; rfl⟩, heq⟩

lemma fires_of_relevel (hv : r.variant? id i = some v)
    (hlevel : Text.signed v.inputLevel ≤ Text.signed level)
    (h : (r.relevel id i level).Fires answers id info hint ledger now i a) :
    r.Fires answers id info hint ledger now i a := by
  have hchosen := chosen?_of_relevel hv hlevel h.1
  have hv' : (r.relevel id i level).variant? id i = some { v with inputLevel := level } := by
    simp [relevel, variant?_modifyVariant, hv]
  refine ⟨hchosen, ?_⟩
  have hanswer := h.2
  rw [fireUnder_of_chosen h.1 hv'] at hanswer
  rw [fireUnder_of_chosen hchosen hv]
  exact (congrArg some (respond_relevel ..).symm).trans hanswer

/-- **Only input above its level fires a variant.** The level in a tag is worked out without an
overflow, and is 101 for all tags but ours. Input that is not ignored fires a variant, and is above
the variant's level: as words with a sign go, and so in truth if that level is below `2 ^ 31`. Input
that is not above such a level does nothing to the variant. To raise a level, but not across
`2 ^ 31`, makes the variant fire on nothing that it did not fire on before. -/
theorem fires_above (r : Registry) (answers : Answers) (id : TriggerId) (info : Tag)
    (hint : Option Nat) (ledger : Ledger) (now : Nat) :
    (info.levelWord.toInt = info.level ∧ -2 ≤ info.level ∧ info.level ≤ 101 ∧
      (info.level = 101 ↔ ¬(Tag.lowest ≤ info ∧ info ≤ Tag.ignore))) ∧
    (∀ a r' ledger', r.fireUnder answers id info hint ledger now = .ok (a, r', ledger') →
      a ≠ .ignored → ∃ i v, r.variant? id i = some v ∧
        r.Fires answers id info hint ledger now i a ∧
          (a, r', ledger') = r.respond id i v info ledger now) ∧
    ∀ i v, r.variant? id i = some v →
      (∀ a, r.Fires answers id info hint ledger now i a →
        v.inputLevel.toInt32 < info.levelWord ∧
          (v.inputLevel.toNat < 2 ^ 31 → (v.inputLevel.toNat : Int) < info.level)) ∧
      (v.inputLevel.toNat < 2 ^ 31 → info.level ≤ v.inputLevel.toNat → ∀ a r' ledger',
        r.fireUnder answers id info hint ledger now = .ok (a, r', ledger') →
          r.PassesOver id i a r') ∧
      ∀ level, v.inputLevel ≤ level → level.toNat < 2 ^ 31 ∨ 2 ^ 31 ≤ v.inputLevel.toNat →
        ∀ a, (r.relevel id i level).Fires answers id info hint ledger now i a →
          r.Fires answers id info hint ledger now i a := by
  obtain ⟨hleast, hmost⟩ := info.level_bounds
  refine ⟨⟨info.toInt_levelWord, hleast, hmost, info.level_eq_above⟩,
    fun a r' ledger' => exists_fires, fun i v hv => ⟨fun a h => ⟨?_, fun hlow => ?_⟩,
      fun hlow hbelow a r' ledger' hfire => ?_, fun level hle hside a h => ?_⟩⟩
  · exact of_decide_eq_true ((v.allows_eq_words info).symm.trans (h.allows hv))
  · exact (Variant.allows_iff hlow).mp (h.allows hv)
  · exact (fired hfire).passesOver hv (Variant.allows_eq_false_of_le hlow hbelow)
  · exact fires_of_relevel hv (Text.signed_le_signed hle hside) h

/-- A variant of level 5 and what is sent at levels 6 and 5. -/
theorem fires_above_of_five :
    let r := ((new 10 1).add ⟨"t", .hotkey, [{ inputLevel := 5 }]⟩).2
    let v : Variant := { inputLevel := 5, maxThreads := some 1 }
    r.variant? 0 0 = some v ∧
      r.Fires (fun _ _ => true) 0 (.ofLevel 6) none .empty 0 0 (.launched 0 0) ∧
      (v.inputLevel.toNat : Int) < (Tag.ofLevel 6).level ∧
      (Tag.ofLevel 5).level ≤ v.inputLevel.toNat ∧
      ∀ a r' ledger', r.fireUnder (fun _ _ => true) 0 (.ofLevel 5) none .empty 0 =
        .ok (a, r', ledger') → r.PassesOver 0 0 a r' := by
  intro r v
  have hv : r.variant? 0 0 = some v := rfl
  have hfires : r.Fires (fun _ _ => true) 0 (.ofLevel 6) none .empty 0 0 (.launched 0 0) :=
    ⟨by decide, by decide⟩
  have hbelow : (Tag.ofLevel 5).level ≤ v.inputLevel.toNat := by decide
  obtain ⟨-, -, habove⟩ := fires_above r (fun _ _ => true) 0 (.ofLevel 6) none .empty 0
  obtain ⟨-, -, hpasses⟩ := fires_above r (fun _ _ => true) 0 (.ofLevel 5) none .empty 0
  exact ⟨hv, hfires, ((habove 0 v hv).1 _ hfires).2 (by decide), hbelow,
    (hpasses 0 v hv).2.1 (by decide) hbelow⟩

/-- From `2 ^ 31` on a level counts as negative. A variant raised there from level 100 fires on what
is sent at level 0, which is not above its level and did not fire it before. -/
theorem fires_below_high_level :
    let low := ((new 10 1).add ⟨"t", .hotkey, [{ inputLevel := 100 }]⟩).2
    let high := low.relevel 0 0 0x80000000
    high.variant? 0 0 = some { inputLevel := 0x80000000, maxThreads := some 1 } ∧
      high.Fires (fun _ _ => true) 0 (.ofLevel 0) none .empty 0 0 (.launched 0 0) ∧
      (Tag.ofLevel 0).level ≤ (0x80000000 : UInt32).toNat ∧
      ∀ a, ¬low.Fires (fun _ _ => true) 0 (.ofLevel 0) none .empty 0 0 a := by
  intro low high
  have hnone : low.chosen? (fun _ _ => true) 0 (.ofLevel 0) none = none := by decide
  exact ⟨rfl, ⟨by decide, by decide⟩, by decide, fun a h => by cases hnone.symm.trans h.1⟩

end Registry

end KeySynth
