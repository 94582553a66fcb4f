import Mathlib.Data.List.Forall2
import Mathlib.Tactic.Common
import KeySynth.Hotstring.CaseTransfer

/-!
Case carried over letter by letter.

A prefix of what was typed is found again in the text, as far to the left as it can be; `Embeds`
gives the places. There, and nowhere else, the text takes the case of what was typed next.
-/

namespace KeySynth.CaseTransfer

open Text

/-- The character in the case asked for. -/
def recase (capital : Bool) (c : Char) : Char := if capital then c.toUpper else c.toLower

/-- Two characters are the same but for their case. -/
def Alike (t c : Char) : Prop := lower t = lower c

instance : DecidableRel Alike := fun t c => inferInstanceAs (Decidable (lower t = lower c))

/-! ### Characters of ASCII -/

section

/-- What holds of all characters of ASCII can be tried out. -/
lemma of_ascii {p : Char → Prop} (h : ∀ n < 0x80, p (Char.ofNat n)) {c : Char}
    (hc : c.toNat < 0x80) : p c :=
  Char.ofNat_toNat c ▸ h c.toNat hc

variable {c : Char} (hc : c.toNat < 0x80) (capital : Bool)
include hc

lemma lower_ascii : lower c = [c.toLower] := if_pos hc

lemma upper_ascii : upper c = [c.toUpper] := if_pos hc

lemma recase_ascii : (recase capital c).toNat < 0x80 :=
  of_ascii (p := fun c => (recase capital c).toNat < 0x80) (by cases capital <;> decide) hc

lemma toLower_recase : (recase capital c).toLower = c.toLower :=
  of_ascii (p := fun c => (recase capital c).toLower = c.toLower) (by cases capital <;> decide) hc

lemma lower_recase : lower (recase capital c) = lower c := by
  rw [lower_ascii (recase_ascii hc capital), lower_ascii hc, toLower_recase hc]

lemma recase_recase : recase capital (recase capital c) = recase capital c :=
  of_ascii (p := fun c => recase capital (recase capital c) = recase capital c)
    (by cases capital <;> decide) hc

lemma isUpper_recase : c.isAlpha = true → (recase capital c).isUpper = capital :=
  of_ascii (p := fun c => c.isAlpha = true → (recase capital c).isUpper = capital)
    (by cases capital <;> decide) hc

end

/-! ### Places in the text -/

/-- A prefix of what was typed stands in the text at the places `ps`, but for its case. -/
inductive Embeds : List Char → List Char → List Nat → Prop where
  | nil {typed text : List Char} : Embeds typed text []
  | here {t c : Char} {typed text : List Char} {ps : List Nat} : Alike t c →
      Embeds typed text ps → Embeds (t :: typed) (c :: text) (0 :: ps.map (· + 1))
  | later {c : Char} {typed text : List Char} {ps : List Nat} :
      Embeds typed text ps → Embeds typed (c :: text) (ps.map (· + 1))

/-- The places where a walk along both matches. -/
def places : List Char → List Char → List Nat
  | _, [] | [], _ => []
  | t :: ts, c :: cs =>
    if Alike t c then 0 :: (places ts cs).map (· + 1) else (places (t :: ts) cs).map (· + 1)

variable {t c : Char} {typed text : List Char} {ps qs : List Nat}

lemma embeds_places (typed text : List Char) : Embeds typed text (places typed text) := by
  induction text generalizing typed with
  | nil =>
    simp only [places]
    exact .nil
  | cons c cs ih =>
    cases typed with
    | nil => exact .nil
    | cons t ts =>
      simp only [places]
      split_ifs with h
      · exact .here h (ih ts)
      · exact .later (ih _)

namespace Embeds

lemma length_le (h : Embeds typed text ps) : ps.length ≤ typed.length := by
  induction h with
  | nil => exact Nat.zero_le _
  | here _ _ ih => simpa using ih
  | later _ ih => simpa using ih

/-- The first place can be left to the first character. -/
lemma tail {q : Nat} (h : Embeds (t :: typed) text (q :: qs)) : Embeds typed text qs := by
  generalize ht : t :: typed = ts at h
  generalize hq : q :: qs = ps at h
  induction h generalizing q qs with
  | nil => cases hq
  | here _ h _ =>
    cases ht
    cases hq
    exact .later h
  | @later c ts text ps h ih =>
    cases ps with
    | nil => cases hq
    | cons p ps =>
      obtain ⟨-, rfl⟩ := List.cons.inj hq
      exact .later (ih ht rfl)

lemma take (h : Embeds typed text ps) (k : Nat) : Embeds typed text (ps.take k) := by
  induction h generalizing k with
  | nil =>
    rw [List.take_nil]
    exact .nil
  | here ha _ ih =>
    cases k with
    | zero => exact .nil
    | succ k =>
      rw [List.take_succ_cons, ← List.map_take]
      exact .here ha (ih k)
  | later _ ih =>
    rw [← List.map_take]
    exact .later (ih k)

/-- After its first place an embedding leaves out the first characters of both. -/
lemma exists_rest {k q : Nat} (h : Embeds (t :: typed) (c :: text) qs)
    (hq : qs[k + 1]? = some q) :
    ∃ rs r, Embeds typed text rs ∧ rs[k]? = some r ∧ r + 1 = q := by
  cases h with
  | nil => simp at hq
  | here _ h => exact ⟨_, q - 1, h, by grind, by grind⟩
  | @later _ _ _ ps h =>
    cases ps with
    | nil => simp at hq
    | cons p ps => exact ⟨ps, q - 1, h.tail, by grind, by grind⟩

/-- The walk is at each place as early as any embedding. -/
lemma exists_place (h : Embeds typed text qs) {k q : Nat} (hq : qs[k]? = some q) :
    ∃ p, (places typed text)[k]? = some p ∧ p ≤ q := by
  induction text generalizing typed qs k q with
  | nil =>
    cases h
    simp at hq
  | cons c cs ih =>
    cases typed with
    | nil =>
      have hlen := h.length_le
      obtain rfl : qs = [] := by simpa using hlen
      simp at hq
    | cons t ts =>
      simp only [places]
      split_ifs with ha
      -- the walk takes the first character, and no embedding has an earlier place
      · cases k with
        | zero => exact ⟨0, rfl, Nat.zero_le q⟩
        | succ k =>
          obtain ⟨rs, r, hrs, hr, rfl⟩ := h.exists_rest hq
          obtain ⟨p, hp, hle⟩ := ih hrs hr
          exact ⟨p + 1, by simp [hp], Nat.succ_le_succ hle⟩
      · cases h with
        | nil => simp at hq
        | here h => exact absurd h ha
        | later h =>
          obtain ⟨r, hr, rfl⟩ := Option.map_eq_some_iff.mp (List.getElem?_map.symm.trans hq)
          obtain ⟨p, hp, hle⟩ := ih h hr
          exact ⟨p + 1, by simp [hp], Nat.succ_le_succ hle⟩

lemma length_le_places (h : Embeds typed text qs) : qs.length ≤ (places typed text).length := by
  by_contra hlt
  have hget := List.getElem?_eq_getElem (Nat.lt_of_not_le hlt)
  obtain ⟨p, hp, -⟩ := h.exists_place hget
  simp at hp

lemma sublistForall₂ (h : Embeds typed text ps) :
    List.SublistForall₂ Alike (typed.take ps.length) text := by
  induction h with
  | nil => simpa using .nil
  | here ha _ ih => simpa using .cons ha ih
  | later _ ih => simpa using .cons_right ih

lemma exists_of_sublistForall₂ {k : Nat} (hk : k ≤ typed.length)
    (h : List.SublistForall₂ Alike (typed.take k) text) :
    ∃ ps, Embeds typed text ps ∧ ps.length = k := by
  generalize hpre : typed.take k = pre at h
  induction h generalizing typed k with
  | nil =>
    have hlen := congrArg List.length hpre
    rw [List.length_take, Nat.min_eq_left hk] at hlen
    exact ⟨[], .nil, hlen.symm⟩
  | cons ha _ ih =>
    cases k with
    | zero => simp at hpre
    | succ k =>
      cases typed with
      | nil => simp at hpre
      | cons t ts =>
        obtain ⟨rfl, hrest⟩ := List.cons.inj (List.take_succ_cons.symm.trans hpre)
        obtain ⟨ps, hps, rfl⟩ := ih (Nat.le_of_succ_le_succ hk) hrest
        exact ⟨_, .here ha hps, by simp⟩
  | cons_right _ ih =>
    obtain ⟨ps, hps, rfl⟩ := ih hk hpre
    exact ⟨_, .later hps, by simp⟩

end Embeds

/-- As much of what was typed stands in the text as the walk matches. -/
lemma sublistForall₂_take_iff {k : Nat} (hk : k ≤ typed.length) :
    List.SublistForall₂ Alike (typed.take k) text ↔ k ≤ (places typed text).length := by
  constructor
  · intro h
    obtain ⟨ps, hps, rfl⟩ := Embeds.exists_of_sublistForall₂ hk h
    exact hps.length_le_places
  · intro h
    have htake := ((embeds_places typed text).take k).sublistForall₂
    rwa [List.length_take, Nat.min_eq_left h] at htake

/-! ### The text that comes of it -/

lemma letterwise_nil_left (text : List Char) : letterwise [] text = text := by
  induction text with
  | nil => rfl
  | cons c cs ih => rw [letterwise, ih]

lemma letterwise_of_alike (ha : Alike t c) (hc : c.toNat < 0x80) (typed text : List Char) :
    letterwise (t :: typed) (c :: text) =
      recase (typed.head?.any isCapital) c :: letterwise typed text := by
  have hlower : lower t = lower c := ha
  rw [letterwise, if_pos hlower, upper_ascii hc, lower_ascii hc, recase]
  split_ifs <;> rfl

lemma letterwise_of_not_alike (ha : ¬Alike t c) (typed text : List Char) :
    letterwise (t :: typed) (c :: text) = c :: letterwise (t :: typed) text := by
  have hlower : lower t ≠ lower c := ha
  rw [letterwise, if_neg hlower]

lemma length_letterwise (hascii : ∀ c ∈ text, c.toNat < 0x80) :
    (letterwise typed text).length = text.length := by
  induction text generalizing typed with
  | nil => cases typed <;> rfl
  | cons c cs ih =>
    obtain ⟨hc, hcs⟩ := List.forall_mem_cons.mp hascii
    cases typed with
    | nil => rw [letterwise_nil_left]
    | cons t ts =>
      by_cases ha : Alike t c
      · rw [letterwise_of_alike ha hc, List.length_cons, List.length_cons, ih hcs]
      · rw [letterwise_of_not_alike ha, List.length_cons, List.length_cons, ih hcs]

/-- Where the walk matches, the case is that of the character typed next; elsewhere nothing
changes. -/
lemma getElem?_letterwise (typed : List Char) (hascii : ∀ c ∈ text, c.toNat < 0x80) {i : Nat}
    (hi : text[i]? = some c) :
    (∀ k : Nat, (places typed text)[k]? = some i →
      (letterwise typed text)[i]? = some (recase (typed[k + 1]?.any isCapital) c)) ∧
    (i ∉ places typed text → (letterwise typed text)[i]? = some c) := by
  induction text generalizing typed i with
  | nil => simp at hi
  | cons a cs ih =>
    obtain ⟨hc, hcs⟩ := List.forall_mem_cons.mp hascii
    cases typed with
    | nil => simp [places, letterwise_nil_left, hi]
    | cons t ts =>
      by_cases ha : Alike t a
      · rw [letterwise_of_alike ha hc]
        simp only [places, if_pos ha]
        cases i with
        | zero =>
          obtain rfl : a = c := by simpa using hi
          refine ⟨fun k hk => ?_, fun hno => absurd (List.mem_cons_self ..) hno⟩
          cases k with
          | zero => simp [List.head?_eq_getElem?]
          | succ k => simp at hk
        | succ i =>
          obtain ⟨hat, hoff⟩ := ih ts hcs (by simpa using hi)
          refine ⟨fun k hk => ?_, fun hno => hoff (by simpa using hno)⟩
          cases k with
          | zero => simp at hk
          | succ k => exact hat k (by simpa using hk)
      · rw [letterwise_of_not_alike ha]
        simp only [places, if_neg ha]
        cases i with
        | zero => exact ⟨fun k hk => by simp at hk, fun _ => hi⟩
        | succ i =>
          obtain ⟨hat, hoff⟩ := ih (t :: ts) hcs (by simpa using hi)
          exact ⟨fun k hk => hat k (by simpa using hk), fun hno => hoff (by simpa using hno)⟩

lemma exists_of_letterwise (hascii : ∀ c ∈ text, c.toNat < 0x80) {i : Nat} {d : Char}
    (hd : (letterwise typed text)[i]? = some d) : ∃ c, text[i]? = some c ∧
      (i ∉ places typed text ∧ d = c ∨ ∃ k : Nat, (places typed text)[k]? = some i ∧
        d = recase (typed[k + 1]?.any isCapital) c) := by
  have hlt : i < text.length := by
    rw [← length_letterwise hascii]
    exact (List.getElem?_eq_some_iff.mp hd).1
  refine ⟨text[i], List.getElem?_eq_getElem hlt, ?_⟩
  obtain ⟨hat, hoff⟩ := getElem?_letterwise typed hascii (List.getElem?_eq_getElem hlt)
  by_cases hi : i ∈ places typed text
  · obtain ⟨k, hk⟩ := List.mem_iff_getElem?.mp hi
    exact .inr ⟨k, hk, Option.some_inj.mp (hd.symm.trans (hat k hk))⟩
  · exact .inl ⟨hi, Option.some_inj.mp (hd.symm.trans (hoff hi))⟩

lemma ascii_letterwise (typed : List Char) (hascii : ∀ c ∈ text, c.toNat < 0x80) :
    ∀ d ∈ letterwise typed text, d.toNat < 0x80 := by
  intro d hd
  obtain ⟨i, hi⟩ := List.mem_iff_getElem?.mp hd
  obtain ⟨c, hc, h⟩ := exists_of_letterwise hascii hi
  have hc := hascii c (List.mem_of_getElem? hc)
  rcases h with ⟨-, rfl⟩ | ⟨k, -, rfl⟩
  · exact hc
  · exact recase_ascii hc _

/-- What does not see the case of a character sees no change. -/
lemma map_letterwise {α : Type} (f : Char → α) (hascii : ∀ c ∈ text, c.toNat < 0x80)
    (hf : ∀ c : Char, c.toNat < 0x80 → ∀ capital, f (recase capital c) = f c) :
    (letterwise typed text).map f = text.map f := by
  refine List.ext_getElem (by simp [length_letterwise hascii]) fun i hi hi' => ?_
  rw [List.getElem_map, List.getElem_map]
  obtain ⟨c, hc, h⟩ := exists_of_letterwise hascii (List.getElem?_eq_getElem (by simpa using hi))
  obtain ⟨hlt, rfl⟩ := List.getElem?_eq_some_iff.mp hc
  rcases h with ⟨-, h⟩ | ⟨k, -, h⟩
  · rw [h]
  · rw [h, hf _ (hascii _ (List.getElem_mem hlt))]

/-- The walk does not see the case of the text. -/
lemma places_congr {us : List Char} (h : us.map lower = text.map lower) :
    places typed us = places typed text := by
  induction text generalizing typed us with
  | nil =>
    obtain rfl : us = [] := by simpa using h
    rfl
  | cons c cs ih =>
    cases us with
    | nil => simp at h
    | cons u us =>
      obtain ⟨hu, hus⟩ := List.cons.inj h
      cases typed with
      | nil => rfl
      | cons t ts =>
        have ha : Alike t u ↔ Alike t c := by rw [Alike, Alike, hu]
        simp only [places, ha, ih hus]

lemma letterwise_letterwise (hascii : ∀ c ∈ text, c.toNat < 0x80) :
    letterwise typed (letterwise typed text) = letterwise typed text := by
  have hout := ascii_letterwise typed hascii
  have hplaces : places typed (letterwise typed text) = places typed text :=
    places_congr (map_letterwise lower hascii fun c hc => lower_recase hc)
  refine List.ext_getElem? fun i => ?_
  cases hi : (letterwise typed text)[i]? with
  | none =>
    rw [List.getElem?_eq_none_iff] at hi ⊢
    rwa [length_letterwise hout]
  | some d =>
    obtain ⟨hat, hoff⟩ := getElem?_letterwise typed hout hi
    rw [hplaces] at hat hoff
    obtain ⟨c, hc, ⟨hno, -⟩ | ⟨k, hk, rfl⟩⟩ := exists_of_letterwise hascii hi
    · exact hoff hno
    · rw [hat k hk, recase_recase (hascii c (List.mem_of_getElem? hc))]

/-- **Only the case is carried over.** Of what was typed, the longest prefix that is found in the
text, whatever the case, is matched as far to the left as it can be. The letters there become
capitals exactly if what was typed next is one; everything else stays, and so does a text that the
case was carried over to before. -/
theorem letterwise_recases (typed : List Char) {text : List Char}
    (hascii : ∀ c ∈ text, c.toNat < 0x80) :
    let out := letterwise typed text
    out.length = text.length ∧ out.map Char.toLower = text.map Char.toLower ∧
    letterwise typed out = out ∧
    ∃ ps : List Nat, Embeds typed text ps ∧
      (∀ k ≤ typed.length, List.SublistForall₂ Alike (typed.take k) text ↔ k ≤ ps.length) ∧
      (∀ qs : List Nat, Embeds typed text qs →
        ∀ (k q : Nat), qs[k]? = some q → ∃ p, ps[k]? = some p ∧ p ≤ q) ∧
      ∀ (i : Nat) (c : Char), text[i]? = some c →
        (i ∉ ps → out[i]? = some c) ∧
        ∀ k : Nat, ps[k]? = some i →
          let capital := typed[k + 1]?.any isCapital
          out[i]? = some (recase capital c) ∧
            (c.isAlpha = true → (recase capital c).isUpper = capital) := by
  intro out
  refine ⟨length_letterwise hascii, map_letterwise _ hascii fun c hc => toLower_recase hc,
    letterwise_letterwise hascii, places typed text, embeds_places typed text,
    fun k hk => sublistForall₂_take_iff hk, fun qs hqs k q hq => hqs.exists_place hq,
    fun i c hi => ?_⟩
  have hc := hascii c (List.mem_of_getElem? hi)
  obtain ⟨hat, hoff⟩ := getElem?_letterwise typed hascii hi
  exact ⟨hoff, fun k hk => ⟨hat k hk, isUpper_recase hc _⟩⟩

/-- The Kelvin sign is typed for a letter of the text, and what is typed last is not found there. -/
theorem letterwise_recases_of_kelvin :
    let typed := ['o', '\u212A', 'É', 'Q']
    let text := ['n', 'o', ' ', 'k', 'o', 'K']
    (∀ c ∈ text, c.toNat < 0x80) ∧
    letterwise typed text = ['n', 'O', ' ', 'K', 'o', 'K'] ∧
    letterwise typed (letterwise typed text) = letterwise typed text := by
  intro typed text
  have hascii : ∀ c ∈ text, c.toNat < 0x80 := by simp [text]
  obtain ⟨-, -, hagain, -⟩ := letterwise_recases typed hascii
  exact ⟨hascii, by decide +kernel, hagain⟩

end KeySynth.CaseTransfer
