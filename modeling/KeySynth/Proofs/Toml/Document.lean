import KeySynth.Proofs.Toml.Value
import KeySynth.Toml.Document

/-!
Plain documents, as they are read: each line adds the key that it defines.
-/

namespace KeySynth.Toml

/-! ### Lines that say nothing -/

lemma skipLines_cons {comment : Bool} {c : Char} (hn : c ≠ '\n') (hr : c ≠ '\r') (cs : List Char) :
    skipLines comment (c :: cs) =
      if comment then if isPlain c then skipLines true cs else c :: cs
      else if isGap c then skipLines false cs
      else if c = '#' then skipLines true cs
      else c :: cs :=
  skipLines.eq_4 comment c cs (fun _ h => absurd h hr) hn

lemma ne_break_of_isPlain {c : Char} (h : isPlain c = true) : c ≠ '\n' ∧ c ≠ '\r' := by
  constructor <;> rintro rfl <;> exact absurd h (by decide)

lemma skipLines_comment {note : List Char} (h : note.all isPlain = true) (cs : List Char) :
    skipLines true (note ++ '\n' :: cs) = skipLines false cs := by
  induction note with
  | nil => rfl
  | cons c note ih =>
    rw [List.all_cons, Bool.and_eq_true] at h
    obtain ⟨hn, hr⟩ := ne_break_of_isPlain h.1
    rw [List.cons_append, skipLines_cons hn hr, if_pos rfl, if_pos h.1, ih h.2]

/-! ### Lines that define a key -/

section Define

variable {key text tail : String} {v : Value}

/-- A bare key begins with a character that begins nothing else. -/
lemma exists_cons_of_isBare (hkey : isBare key = true) :
    ∃ c cs, key.toList = c :: cs ∧ isBareKey c = true := by
  rw [isBare, Bool.and_eq_true] at hkey
  cases h : key.toList with
  | nil => simp_all
  | cons c cs => exact ⟨c, cs, rfl, by simp_all⟩

lemma skipLines_key (hkey : isBare key = true) (cs : List Char) :
    skipLines false (key.toList ++ cs) = key.toList ++ cs := by
  obtain ⟨c, ks, hk, hc⟩ := exists_cons_of_isBare hkey
  have hno : ∀ d, isBareKey d = false → c ≠ d := by
    rintro d hd rfl
    exact absurd (hc.symm.trans hd) (by decide)
  have hgap : isGap c = false := by
    simp [isGap, hno ' ' (by decide), hno '\t' (by decide)]
  rw [hk, List.cons_append, skipLines_cons (hno '\n' (by decide)) (hno '\r' (by decide)),
    if_neg (by decide), if_neg (by simp [hgap]), if_neg (hno '#' (by decide))]

/-- A bare key before a blank and the equals sign is the whole key. -/
lemma takeKey_eq (hkey : isBare key = true) (cs : List Char) :
    takeKey (key.toList ++ ' ' :: '=' :: cs) = .ok ([key], '=' :: cs) := by
  have hall : ∀ c ∈ key.toList, isBareKey c = true := by
    rw [isBare, Bool.and_eq_true] at hkey
    exact List.all_eq_true.mp hkey.2
  have htake : (key.toList ++ ' ' :: '=' :: cs).takeWhile isBareKey = key.toList := by
    rw [List.takeWhile_append_of_pos hall, List.takeWhile_cons, if_neg (by decide),
      List.append_nil]
  have hdrop : (key.toList ++ ' ' :: '=' :: cs).dropWhile isBareKey = ' ' :: '=' :: cs := by
    rw [List.dropWhile_append_of_pos hall, List.dropWhile_cons, if_neg (by decide)]
  obtain ⟨c, ks, hk, hc⟩ := exists_cons_of_isBare hkey
  have hsimple : takeSimpleKey (key.toList ++ ' ' :: '=' :: cs) = .ok (key, ' ' :: '=' :: cs) := by
    unfold takeSimpleKey
    split
    · rename_i he
      rw [hk] at he
      exact absurd hc (by rw [(List.cons.inj he).1]; decide)
    · rename_i he
      rw [hk] at he
      exact absurd hc (by rw [(List.cons.inj he).1]; decide)
    · simp only [htake, hdrop, String.ofList_toList]
      rw [if_neg (by simp [hk])]
  rw [takeKey, maxDepth, takeKeyParts, hsimple]
  rfl

lemma takeStatement_eq (hkey : isBare key = true) (htext : Spells text v)
    (rest : List Char) :
    takeStatement (key.toList ++ ' ' :: '=' :: ' ' :: (text.toList ++ ' ' :: rest)) =
      .ok (.define [key] v, ' ' :: rest) := by
  obtain ⟨c, ks, hk, hc⟩ := exists_cons_of_isBare hkey
  have hopen : ∀ cs, key.toList ++ ' ' :: '=' :: ' ' :: (text.toList ++ ' ' :: rest) ≠
      '[' :: cs := by
    intro cs he
    rw [hk] at he
    exact absurd hc (by rw [(List.cons.inj he).1]; decide)
  unfold takeStatement
  split
  · exact absurd ‹_› (hopen _)
  · exact absurd ‹_› (hopen _)
  · rw [takeKey_eq hkey]
    change (value (skipGaps (text.toList ++ ' ' :: rest)) >>= _) = _
    rw [htext.reads]
    rfl

lemma lineEnd_eq {tail : List Char} (htail : isTail tail = true) (cs : List Char) :
    lineEnd (tail ++ '\n' :: cs) = .ok cs := by
  unfold isTail at htail
  split at htail
  · rename_i gap
    have hskip : skipGaps (' ' :: gap ++ '\n' :: cs) = skipGaps gap ++ '\n' :: cs := by
      change skipGaps (gap ++ '\n' :: cs) = _
      rw [skipGaps, skipGaps, List.dropWhile_append]
      split
      · rename_i he
        rw [List.isEmpty_iff.mp he]
        rfl
      · rfl
    unfold lineEnd
    rw [hskip]
    split at htail
    · rename_i he
      rw [he]
      rfl
    · rename_i note he
      have hdrop : (note ++ '\n' :: cs).dropWhile isPlain = '\n' :: cs := by
        rw [List.dropWhile_append_of_pos (List.all_eq_true.mp htail), List.dropWhile_cons,
          if_neg (by decide)]
      rw [he]
      simp only [List.cons_append, hdrop]
      rfl
    · cases htail
  · cases htail

end Define

/-! ### Tables -/

lemma Entries.set_eq_append {es : Entries} {key : String} (h : key ∉ es.map Prod.fst)
    (v : Value) : set key v es = es ++ [(key, v)] := by
  induction es with
  | nil => rfl
  | cons e es ih =>
    rw [List.map_cons, List.mem_cons, not_or] at h
    rw [set, if_neg (Ne.symm h.1), ih h.2]
    rfl

/-- A key that is new goes to the end. -/
lemma Draft.add_define {root : Entries} {key : String} (h : key ∉ root.map Prod.fst) (v : Value) :
    Draft.add ⟨root, []⟩ (.define [key] v) = .ok ⟨root ++ [(key, v)], []⟩ := by
  have hnone : root.get? key = none := by
    rw [Entries.get?, List.lookup_eq_none_iff]
    intro e he
    exact bne_iff_ne.mpr fun hk => h (List.mem_map.mpr ⟨e, he, hk.symm⟩)
  change (Entries.enter (Entries.define v [key]) [] root >>= _) = _
  rw [Entries.enter, Entries.define, hnone, Entries.set_eq_append h]
  rfl

/-! ### Documents -/

lemma addStatements_congr {d : Draft} {cs cs' : List Char}
    (h : skipLines false cs = skipLines false cs') :
    ∀ n, addStatements n d cs = addStatements n d cs'
  | 0 => rfl
  | n + 1 => by rw [addStatements, addStatements, h]

/-- One line is one statement. -/
lemma addStatements_define {key text tail : String} {v : Value} (hkey : isBare key = true)
    (htext : Spells text v) (htail : isTail tail.toList = true) {root : Entries}
    (hnew : key ∉ root.map Prod.fst) (n : Nat) (cs : List Char) :
    addStatements (n + 1) ⟨root, []⟩ ((key ++ " = " ++ text ++ tail).toList ++ '\n' :: cs) =
      addStatements n ⟨root ++ [(key, v)], []⟩ cs := by
  obtain ⟨gap, hgap⟩ : ∃ gap, tail.toList = ' ' :: gap := by
    unfold isTail at htail
    split at htail
    · exact ⟨_, ‹_›⟩
    · cases htail
  have hend := lineEnd_eq htail cs
  have hline : (key ++ " = " ++ text ++ tail).toList ++ '\n' :: cs =
      key.toList ++ ' ' :: '=' :: ' ' :: (text.toList ++ ' ' :: (gap ++ '\n' :: cs)) := by
    simp [hgap]
  obtain ⟨c, ks, hk, -⟩ := exists_cons_of_isBare hkey
  rw [hgap] at hend
  rw [hline, addStatements, skipLines_key hkey]
  split
  · rename_i he
    rw [hk] at he
    cases he
  · rw [takeStatement_eq hkey htext]
    change (lineEnd (' ' :: gap ++ '\n' :: cs) >>= _) = _
    rw [hend]
    change (Draft.add _ _ >>= _) = _
    rw [Draft.add_define hnew]
    rfl

/-- Lines are read one by one, and each adds what it defines. -/
lemma addStatements_lines {ls : List String} {ess : List Entries} (h : List.Forall₂ Line ls ess)
    {root : Entries} (hnew : ((root ++ ess.flatten).map Prod.fst).Nodup) {n : Nat}
    (hn : ess.flatten.length ≤ n) :
    addStatements n ⟨root, []⟩ (ls.flatMap fun l => l.toList ++ ['\n']) =
      .ok ⟨root ++ ess.flatten, []⟩ := by
  induction h generalizing root n with
  | nil => cases n <;> simp [addStatements, skipLines]
  | @cons l es ls ess hline _ ih =>
    rw [List.flatMap_cons, List.append_assoc, List.singleton_append]
    cases hline with
    | blank =>
      refine Eq.trans (addStatements_congr ?_ n) (ih hnew hn)
      rfl
    | @comment note hnote =>
      refine Eq.trans (addStatements_congr ?_ n) (ih hnew hn)
      rw [String.toList_append, List.append_assoc]
      exact skipLines_comment hnote _
    | @define key text tail v hkey htext htail =>
      have hkeys : (root ++ ([(key, v)] :: ess).flatten) = root ++ [(key, v)] ++ ess.flatten := by
        simp
      obtain ⟨n, rfl⟩ : ∃ m, n = m + 1 := ⟨n - 1, by simp at hn; omega⟩
      rw [hkeys] at hnew ⊢
      have hfresh : key ∉ root.map Prod.fst := by
        rw [List.append_assoc, List.map_append, List.nodup_append] at hnew
        exact fun hm => hnew.2.2 key hm key (by simp) rfl
      rw [addStatements_define hkey htext htail hfresh]
      refine ih hnew ?_
      rw [List.flatten_cons, List.length_append, List.length_singleton] at hn
      omega

/-- There are more characters than keys. -/
lemma length_flatten_le {ls : List String} {ess : List Entries} (h : List.Forall₂ Line ls ess) :
    ess.flatten.length ≤ (ls.flatMap fun l => l.toList ++ ['\n']).length := by
  induction h with
  | nil => exact Nat.le_refl _
  | @cons l es ls ess hline _ ih =>
    have hone : es.length ≤ 1 := by
      cases hline <;> simp
    rw [List.flatten_cons, List.flatMap_cons, List.length_append, List.length_append,
      List.length_append, List.length_singleton]
    omega

/-- No line begins with a byte order mark. -/
lemma dropMark_lines {ls : List String} {ess : List Entries} (h : List.Forall₂ Line ls ess) :
    dropMark (ls.flatMap fun l => l.toList ++ ['\n']) =
      ls.flatMap fun l => l.toList ++ ['\n'] := by
  cases h with
  | nil => rfl
  | cons hline _ =>
    rw [List.flatMap_cons, List.append_assoc]
    cases hline with
    | blank => rfl
    | comment => simp [dropMark]
    | define hkey =>
      obtain ⟨c, ks, hk, hc⟩ := exists_cons_of_isBare hkey
      have hmark : c ≠ '\uFEFF' := by
        rintro rfl
        exact absurd hc (by decide)
      simp [dropMark, hk, hmark]

/-- A document of such lines, no two of them with the same key, is what they define. -/
theorem parse_lines {ls : List String} {ess : List Entries} (h : List.Forall₂ Line ls ess)
    (hnew : (ess.flatten.map Prod.fst).Nodup) :
    parse (String.join (ls.map (· ++ "\n"))) = .ok ess.flatten := by
  have hchars : (String.join (ls.map (· ++ "\n"))).toList =
      ls.flatMap fun l => l.toList ++ ['\n'] := by
    simp [List.flatMap_def, Function.comp_def]
  rw [parse, hchars, dropMark_lines h]
  change (addStatements _ ⟨[], []⟩ _ >>= _) = _
  rw [addStatements_lines h hnew (Nat.le_succ_of_le (length_flatten_le h))]
  rfl

/-- The reader of this library reads plain documents. -/
theorem readsPlain_read : read.ReadsPlain := fun _ ess h hnew =>
  ⟨ess.flatten, congrArg (·.mapError Fault.message) (parse_lines h hnew), fun _ => rfl⟩

end KeySynth.Toml
