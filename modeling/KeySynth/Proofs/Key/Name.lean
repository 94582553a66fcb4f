import KeySynth.Key.Name
import KeySynth.Proofs.Text.Digits

/-!
Which names are names of keys.

`Names` is the grammar of key names. Its forms are tried one after the other, and each is left to
what it is meant for, but for one: a name that begins like a scan code is taken for nothing else.
-/

namespace KeySynth

open Text

/-- In a table without duplicate names an entry is found by its name. -/
lemma lookup_eq_some_iff_mem {α : Type} {table : List (String × α)}
    (hnd : (table.map Prod.fst).Nodup) {name : String} {a : α} :
    table.lookup name = some a ↔ (name, a) ∈ table := by
  rw [List.lookup_eq_some_iff]
  constructor
  · rintro ⟨before, after, rfl, -⟩
    simp
  · intro h
    obtain ⟨before, after, rfl⟩ := List.append_of_mem h
    refine ⟨before, after, rfl, fun p hp => bne_iff_ne.mpr fun he => ?_⟩
    rw [List.map_append, List.map_cons, List.nodup_append] at hnd
    exact hnd.2.2 p.1 (List.mem_map_of_mem hp) name List.mem_cons_self he.symm

lemma Button.ofCapitals?_eq_some_iff {upper : String} {b : Button} :
    ofCapitals? upper = some b ↔ (upper, b) ∈ names :=
  lookup_eq_some_iff_mem (by decide +kernel)

namespace NamedKey

/-- The names of keys, in capitals. A number may have a plus sign in front. A name that buttons and
keys share is that of the button, and the name of the ScrollLock key is lost. -/
inductive Names (upper : List Char) : NamedKey → Prop where
  | button {b : Button} : (String.ofList upper, b) ∈ Button.names → Names upper (.mouse b)
  | function {ds : List Char} {n : Nat} {vk : VirtualKey} : upper = 'F' :: ds →
      WritesSigned 10 ds n → 1 ≤ n → n ≤ 24 → vk.toNat = 0x6F + n → Names upper vk.named
  | numpad {ds : List Char} {n : Nat} {vk : VirtualKey} : upper = "NUMPAD".toList ++ ds →
      WritesSigned 10 ds n → n ≤ 9 → vk.toNat = VirtualKey.numpad0.toNat + n → Names upper vk.named
  | virtual {v : List Char} {vk : VirtualKey} : upper = "VK".toList ++ v →
      WritesSigned 16 v vk.toNat → vk ≠ 0 → Names upper (.key vk 0)
  | scan {s : List Char} {sc : ScanCode} : upper = "SC".toList ++ s →
      WritesSigned 16 s sc.toNat → sc ≠ 0 → Names upper (.key 0 sc)
  | codes {v s : List Char} {vk : VirtualKey} {sc : ScanCode} :
      upper = "VK".toList ++ v ++ "SC".toList ++ s → WritesSigned 16 v vk.toNat →
      WritesSigned 16 s sc.toNat → ¬(vk = 0 ∧ sc = 0) → Names upper (.key vk sc)
  | listed {k : NamedKey} : (String.ofList upper, k) ∈ keyNames →
      (∀ b, (String.ofList upper, b) ∉ Button.names) → upper ≠ "SCROLLLOCK".toList →
      Names upper k

variable {upper cs : List Char} {k : NamedKey}

/-! ### Numbered keys -/

lemma toNat_add_toUInt8 (base : VirtualKey) (n : Nat) (h : base.toNat + n < 256) :
    (base + n.toUInt8).toNat = base.toNat + n := by
  have hn : n.toUInt8.toNat = n := Nat.mod_eq_of_lt (by omega)
  rw [UInt8.toNat_add, hn]
  exact Nat.mod_eq_of_lt h

lemma functionKey?_eq_some_iff : functionKey? upper = some k ↔
    ∃ ds n, ∃ vk : VirtualKey, upper = 'F' :: ds ∧ WritesSigned 10 ds n ∧ 1 ≤ n ∧ n ≤ 24 ∧
      vk.toNat = 0x6F + n ∧ k = vk.named := by
  have hf1 : VirtualKey.f1.toNat = 0x70 := rfl
  constructor
  · intro h
    unfold functionKey? at h
    split at h
    · rename_i ds
      obtain ⟨n, hn, rfl⟩ := Option.map_eq_some_iff.mp h
      obtain ⟨hn, hrange⟩ := Option.filter_eq_some_iff.mp hn
      obtain ⟨hlo, hhi⟩ := of_decide_eq_true hrange
      have hvk := toNat_add_toUInt8 .f1 (n - 1) (by omega)
      exact ⟨ds, n, _, rfl, ((natural?_eq_some_iff (by decide)).mp hn).1, hlo, hhi, by omega, rfl⟩
    · cases h
  · rintro ⟨ds, n, vk, rfl, hds, hlo, hhi, hvk, rfl⟩
    have hn : natural? 10 256 ds = some n :=
      (natural?_eq_some_iff (by decide)).mpr ⟨hds, by omega⟩
    have hsum := toNat_add_toUInt8 .f1 (n - 1) (by omega)
    have hkey : VirtualKey.f1 + (n - 1).toUInt8 = vk := UInt8.toNat_inj.mp (by omega)
    simp [functionKey?, hn, hlo, hhi, hkey]

lemma numpadDigit?_eq_some_iff : numpadDigit? upper = some k ↔
    ∃ ds n, ∃ vk : VirtualKey, upper = "NUMPAD".toList ++ ds ∧ WritesSigned 10 ds n ∧ n ≤ 9 ∧
      vk.toNat = VirtualKey.numpad0.toNat + n ∧ k = vk.named := by
  have hnumpad0 : VirtualKey.numpad0.toNat = 0x60 := rfl
  constructor
  · intro h
    unfold numpadDigit? at h
    split at h
    · rename_i ds
      obtain ⟨n, hn, rfl⟩ := Option.map_eq_some_iff.mp h
      obtain ⟨hn, hrange⟩ := Option.filter_eq_some_iff.mp hn
      have hhi : n ≤ 9 := of_decide_eq_true hrange
      exact ⟨ds, n, _, rfl, ((natural?_eq_some_iff (by decide)).mp hn).1, hhi,
        toNat_add_toUInt8 .numpad0 n (by omega), rfl⟩
    · cases h
  · rintro ⟨ds, n, vk, rfl, hds, hhi, hvk, rfl⟩
    have hn : natural? 10 256 ds = some n :=
      (natural?_eq_some_iff (by decide)).mpr ⟨hds, by omega⟩
    have hsum := toNat_add_toUInt8 .numpad0 n (by omega)
    have hkey : VirtualKey.numpad0 + n.toUInt8 = vk := UInt8.toNat_inj.mp (by omega)
    simp [numpadDigit?, hn, hhi, hkey]

/-! ### Codes -/

lemma virtualCode?_eq_some_iff {vk : VirtualKey} :
    virtualCode? cs = some vk ↔ WritesSigned 16 cs vk.toNat := by
  rw [virtualCode?, Option.map_eq_some_iff]
  simp only [natural?_eq_some_iff (Nat.le_refl 16)]
  constructor
  · rintro ⟨n, ⟨hn, hlt⟩, rfl⟩
    rwa [show n.toUInt8.toNat = n from Nat.mod_eq_of_lt hlt]
  · intro h
    exact ⟨vk.toNat, ⟨h, vk.toNat_lt⟩, by simp⟩

lemma scanCode?_eq_some_iff {sc : ScanCode} :
    scanCode? cs = some sc ↔ WritesSigned 16 cs sc.toNat := by
  rw [scanCode?, Option.map_eq_some_iff]
  simp only [natural?_eq_some_iff (Nat.le_refl 16)]
  constructor
  · rintro ⟨n, ⟨hn, hlt⟩, rfl⟩
    rwa [show n.toUInt16.toNat = n from Nat.mod_eq_of_lt hlt]
  · intro h
    exact ⟨sc.toNat, ⟨h, sc.toNat_lt⟩, by simp⟩

lemma ofCodes?_eq_some_iff {vk : VirtualKey} {sc : ScanCode} :
    ofCodes? vk sc = some k ↔ ¬(vk = 0 ∧ sc = 0) ∧ k = .key vk sc := by
  rw [ofCodes?, Option.ite_none_left_eq_some, Option.some_inj, eq_comm (a := k)]

lemma splitScan_eq_some {u v : List Char} (h : splitScan cs = some (u, v)) :
    cs = u ++ "SC".toList ++ v := by
  fun_induction splitScan cs generalizing u with
  | case1 cs =>
    cases h
    rfl
  | case2 c cs _ ih =>
    obtain ⟨⟨w, x⟩, hw, he⟩ := Option.map_eq_some_iff.mp h
    cases he
    rw [ih hw]
    rfl
  | case3 => cases h

/-- What has no `S` does not begin a scan code. -/
lemma splitScan_of_not_mem {u : List Char} (h : 'S' ∉ u) :
    splitScan u = none ∧ ∀ v, splitScan (u ++ "SC".toList ++ v) = some (u, v) := by
  induction u with
  | nil => exact ⟨rfl, fun _ => rfl⟩
  | cons c u ih =>
    obtain ⟨hc, hu⟩ := not_or.mp (mt List.mem_cons.mpr h)
    obtain ⟨hnone, hsome⟩ := ih hu
    have hcons : ∀ cs, splitScan (c :: cs) = (splitScan cs).map fun p => (c :: p.1, p.2) :=
      fun cs => splitScan.eq_2 _ _ fun _ hS _ => hc hS.symm
    refine ⟨by rw [hcons, hnone]; rfl, fun v => ?_⟩
    rw [List.cons_append, List.cons_append, hcons, hsome]
    rfl

lemma not_mem_of_writesSigned {n : Nat} (h : WritesSigned 16 cs n) : 'S' ∉ cs := by
  have hdigit : digit? 16 'S' = none := by decide
  rcases h with h | ⟨ds, rfl, h⟩
  · exact h.not_mem (Nat.le_refl 16) hdigit
  · exact List.not_mem_cons_of_ne_of_not_mem (by decide) (h.not_mem (Nat.le_refl 16) hdigit)

lemma codes?_scan (s : List Char) :
    codes? ("SC".toList ++ s) = some ((scanCode? s).bind (ofCodes? 0)) := rfl

lemma codes?_virtual {v : List Char} (h : 'S' ∉ v) :
    codes? ("VK".toList ++ v) = some ((virtualCode? v).bind (ofCodes? · 0)) := by
  change codes? ('V' :: 'K' :: v) = _
  rw [codes?, (splitScan_of_not_mem h).1]
  rfl

lemma codes?_both {v : List Char} (h : 'S' ∉ v) (s : List Char) :
    codes? ("VK".toList ++ v ++ "SC".toList ++ s) =
      some ((virtualCode? v).bind fun vk => (scanCode? s).bind (ofCodes? vk)) := by
  change codes? ('V' :: 'K' :: (v ++ "SC".toList ++ s)) = _
  rw [codes?, (splitScan_of_not_mem h).2]
  rfl

/-- A name that begins like a pair of codes is a name by them, or is none. -/
lemma names_of_codes? (h : codes? upper = some (some k)) : Names upper k := by
  unfold codes? at h
  split at h
  · rename_i s
    obtain ⟨sc, hsc, hk⟩ := Option.bind_eq_some_iff.mp (Option.some_inj.mp h)
    obtain ⟨hne, rfl⟩ := ofCodes?_eq_some_iff.mp hk
    exact .scan rfl (scanCode?_eq_some_iff.mp hsc) fun h0 => hne ⟨rfl, h0⟩
  · rename_i cs
    rw [Option.some_inj] at h
    split at h
    · rename_i v s hsplit
      obtain ⟨vk, hvk, h⟩ := Option.bind_eq_some_iff.mp h
      obtain ⟨sc, hsc, hk⟩ := Option.bind_eq_some_iff.mp h
      obtain ⟨hne, rfl⟩ := ofCodes?_eq_some_iff.mp hk
      obtain rfl := splitScan_eq_some hsplit
      exact .codes rfl (virtualCode?_eq_some_iff.mp hvk) (scanCode?_eq_some_iff.mp hsc) hne
    · obtain ⟨vk, hvk, hk⟩ := Option.bind_eq_some_iff.mp h
      obtain ⟨hne, rfl⟩ := ofCodes?_eq_some_iff.mp hk
      exact .virtual rfl (virtualCode?_eq_some_iff.mp hvk) fun h0 => hne ⟨h0, rfl⟩
  · cases h

/-! ### The forms of a name -/

/-- No button has a name that begins like a numbered key or a code. -/
lemma button_of_head {c : Char} (hc : c ∈ ['F', 'N', 'V', 'S']) (h : upper.head? = some c) :
    Button.ofCapitals? (String.ofList upper) = none := by
  have hheads : ∀ p ∈ Button.names, p.1.toList.head? ∉ ['F', 'N', 'V', 'S'].map some := by
    decide +kernel
  refine List.lookup_eq_none_iff.mpr fun p hp => bne_iff_ne.mpr fun he => hheads p hp ?_
  rw [← he, String.toList_ofList, h]
  exact List.mem_map_of_mem hc

lemma mem_keyNames {name : String} : keyNames.lookup name = some k ↔ (name, k) ∈ keyNames :=
  lookup_eq_some_iff_mem (by decide +kernel)

/-- The other names of keys begin like nothing else, but for that of the ScrollLock key. -/
lemma forms_of_listed {name : String} (h : (name, k) ∈ keyNames) (hne : name ≠ "SCROLLLOCK") :
    functionKey? name.toList = none ∧ numpadDigit? name.toList = none ∧
      codes? name.toList = none := by
  have hall : ∀ p ∈ keyNames, p.1 ≠ "SCROLLLOCK" → functionKey? p.1.toList = none ∧
      numpadDigit? p.1.toList = none ∧ codes? p.1.toList = none := by decide +kernel
  exact hall _ h hne

/-- What is not the name of a button is tried as each of the other forms. -/
lemma ofCapitals?_eq (hb : Button.ofCapitals? (String.ofList upper) = none) :
    ofCapitals? upper = (functionKey? upper).or ((numpadDigit? upper).or
      ((codes? upper).getD (keyNames.lookup (String.ofList upper)))) := by
  rw [ofCapitals?, hb]
  cases functionKey? upper <;> cases numpadDigit? upper <;> rfl

lemma ofCapitals?_of_names (h : Names upper k) : ofCapitals? upper = some k := by
  cases h with
  | button hb => rw [ofCapitals?, Button.ofCapitals?_eq_some_iff.mpr hb]
  | function hu hds hlo hhi hvk =>
    have hf := functionKey?_eq_some_iff.mpr ⟨_, _, _, hu, hds, hlo, hhi, hvk, rfl⟩
    subst hu
    rw [ofCapitals?_eq (button_of_head (c := 'F') (by decide) rfl), hf]
    rfl
  | numpad hu hds hhi hvk =>
    have hd := numpadDigit?_eq_some_iff.mpr ⟨_, _, _, hu, hds, hhi, hvk, rfl⟩
    subst hu
    rw [ofCapitals?_eq (button_of_head (c := 'N') (by decide) rfl), hd]
    rfl
  | virtual hu hv hne =>
    subst hu
    rw [ofCapitals?_eq (button_of_head (c := 'V') (by decide) rfl),
      codes?_virtual (not_mem_of_writesSigned hv), virtualCode?_eq_some_iff.mpr hv]
    exact ofCodes?_eq_some_iff.mpr ⟨fun h => hne h.1, rfl⟩
  | scan hu hs hne =>
    subst hu
    rw [ofCapitals?_eq (button_of_head (c := 'S') (by decide) rfl), codes?_scan,
      scanCode?_eq_some_iff.mpr hs]
    exact ofCodes?_eq_some_iff.mpr ⟨fun h => hne h.2, rfl⟩
  | codes hu hv hs hne =>
    subst hu
    rw [ofCapitals?_eq (button_of_head (c := 'V') (by decide) rfl),
      codes?_both (not_mem_of_writesSigned hv), virtualCode?_eq_some_iff.mpr hv,
      scanCode?_eq_some_iff.mpr hs]
    exact ofCodes?_eq_some_iff.mpr ⟨hne, rfl⟩
  | listed hk hb hne =>
    have hnone : Button.ofCapitals? (String.ofList upper) = none :=
      Option.eq_none_iff_forall_ne_some.mpr fun b hb' =>
        hb b (Button.ofCapitals?_eq_some_iff.mp hb')
    have hforms := forms_of_listed hk fun he => hne (by rw [← he, String.toList_ofList])
    rw [String.toList_ofList] at hforms
    rw [ofCapitals?_eq hnone, hforms.1, hforms.2.1, hforms.2.2]
    exact mem_keyNames.mpr hk

lemma names_of_ofCapitals? (h : ofCapitals? upper = some k) : Names upper k := by
  cases hb : Button.ofCapitals? (String.ofList upper) with
  | some b =>
    rw [ofCapitals?, hb] at h
    cases h
    exact .button (Button.ofCapitals?_eq_some_iff.mp hb)
  | none =>
    rw [ofCapitals?_eq hb, Option.or_eq_some_iff, Option.or_eq_some_iff] at h
    rcases h with hf | ⟨-, hd | ⟨-, h⟩⟩
    · obtain ⟨ds, n, vk, hu, hds, hlo, hhi, hvk, rfl⟩ := functionKey?_eq_some_iff.mp hf
      exact .function hu hds hlo hhi hvk
    · obtain ⟨ds, n, vk, hu, hds, hhi, hvk, rfl⟩ := numpadDigit?_eq_some_iff.mp hd
      exact .numpad hu hds hhi hvk
    · cases hc : codes? upper with
      | some r =>
        rw [hc] at h
        obtain rfl : r = some k := h
        exact names_of_codes? hc
      | none =>
        rw [hc] at h
        refine .listed (mem_keyNames.mp h) (fun b hmem => ?_) fun he => ?_
        · rw [Button.ofCapitals?_eq_some_iff.mpr hmem] at hb
          cases hb
        · subst he
          cases hc

/-- **A name is that of a key exactly if the grammar has it**, and of the key that the grammar
says. -/
theorem ofName?_eq_some_iff (name : List Char) (k : NamedKey) :
    ofName? name = some k ↔ Names (name.map Char.toUpper) k :=
  ⟨names_of_ofCapitals?, ofCapitals?_of_names⟩

/-- The ScrollLock key is in the table under a name that is taken for a scan code, and a plus sign
is read in front of a number. -/
theorem scrollLock_lost :
    ("SCROLLLOCK", VirtualKey.scrollLock.named) ∈ keyNames ∧ ofName? "ScrollLock".toList = none ∧
      ofName? "F+5".toList = some (VirtualKey.named 0x74) := by
  decide +kernel

end NamedKey

end KeySynth
