import KeySynth.Proofs.Script.Tokens
import KeySynth.Proofs.Text.Digits

/-!
Code points that are written as directives.

A directive whose name begins with a U and a plus sign is a code point or a fault, and nothing else.
-/

namespace KeySynth

open Text

/-- One to six hexadecimal digits that write a character. -/
structure Text.WritesScalar (hex : List Char) (cp : Nat) : Prop where
  writes : Writes 16 hex cp
  length : hex.length ≤ 6
  scalar : isScalar cp = true

namespace Directive

variable {hex : List Char} {cp : Nat}

/-- A sign takes the place of one of the six digits. -/
lemma codePoint?_eq_some_iff : codePoint? hex = some cp ↔
    WritesScalar hex cp ∨ ∃ ds, hex = '+' :: ds ∧ ds.length < 6 ∧ WritesScalar ds cp := by
  have hbound : isScalar cp = true → cp < UInt32.size := fun h => by
    have hsize : UInt32.size = 4294967296 := rfl
    simp only [isScalar, Bool.or_eq_true, Bool.and_eq_true, decide_eq_true_eq] at h
    omega
  unfold codePoint?
  rw [Option.ite_none_left_eq_some, Option.filter_eq_some_iff,
    natural?_eq_some_iff (Nat.le_refl 16), Nat.not_lt]
  constructor
  · rintro ⟨hlen, ⟨hw | ⟨ds, rfl, hw⟩, -⟩, hs⟩
    · exact .inl ⟨hw, hlen, hs⟩
    · have hds : ds.length < 6 := hlen
      exact .inr ⟨ds, rfl, hds, hw, hds.le, hs⟩
  · rintro (⟨hw, hlen, hs⟩ | ⟨ds, rfl, hlen, hw, -, hs⟩)
    · exact ⟨hlen, ⟨.inl hw, hbound hs⟩, hs⟩
    · exact ⟨hlen, ⟨.inr ⟨ds, rfl, hw⟩, hbound hs⟩, hs⟩

lemma codePoint?_map_toUpper (hex : List Char) :
    codePoint? (hex.map Char.toUpper) = codePoint? hex := by
  unfold codePoint?
  rw [List.length_map, natural?_map_toUpper (Nat.le_refl 16)]

/-- A name without blanks is the whole directive. -/
lemma name_eq {c : Char} {cs : List Char} (h : ∀ x ∈ cs, isGap x = false) :
    name (c :: cs) = c :: cs ∧ rest (c :: cs) = [] := by
  have hword : ∀ x ∈ cs, (!isGap x) = true := fun x hx => by rw [h x hx]; rfl
  refine ⟨congrArg (c :: ·) (List.takeWhile_eq_self_iff.mpr hword), ?_⟩
  rw [rest, List.dropWhile_eq_nil_iff.mpr hword]
  rfl

lemma token_codePoint {u : Char} (hu : u = 'U' ∨ u = 'u') (hgap : ∀ x ∈ hex, isGap x = false)
    (first : Bool) : token first (u :: '+' :: hex) =
      ((codePoint? hex).map .unicode).getD (.invalidUnicode (String.ofList (u :: '+' :: hex))) := by
  have hupper : u.toUpper = 'U' := by rcases hu with rfl | rfl <;> decide
  have hplus : ('+' : Char).toUpper = '+' := by decide
  have hword : ∀ x ∈ '+' :: hex, isGap x = false := fun x hx => by
    rcases List.mem_cons.mp hx with rfl | hx
    · decide
    · exact hgap x hx
  obtain ⟨hname, hrest⟩ := name_eq (c := u) hword
  unfold token
  simp only [hname, hrest, List.map_cons, hupper, hplus, codePoint?_map_toUpper]
  cases codePoint? hex <;> simp [isBlind, List.isPrefixOf]

end Directive

namespace Token

/-- **A directive for a code point is a code point or a fault.** It is a code point if what follows
the plus sign is one to six hexadecimal digits that write a character, and also if a second plus
sign stands in the place of the first of the six; it is a fault with the whole directive otherwise.
-/
theorem ofText_codePoint {mode : RawMode} (hmode : mode ≠ .rawText) {u : Char}
    (hu : u = 'U' ∨ u = 'u') {hex : List Char} (hhex : ∀ c ∈ hex, c ≠ '}' ∧ c ≠ ' ' ∧ c ≠ '\t') :
    let ts := ofText mode (String.ofList ('{' :: u :: '+' :: (hex ++ ['}'])))
    (∀ cp, ts = [.unicode cp] ↔
      WritesScalar hex cp ∨ ∃ ds, hex = '+' :: ds ∧ ds.length < 6 ∧ WritesScalar ds cp) ∧
    ((∀ cp, ts ≠ [.unicode cp]) → ts = [.invalidUnicode (String.ofList (u :: '+' :: hex))]) := by
  intro ts
  have hgap : ∀ x ∈ hex, Directive.isGap x = false := fun x hx => by
    simp [Directive.isGap, hhex x hx]
  have hbrace : '}' ∉ '+' :: hex := fun h => by
    rcases List.mem_cons.mp h with h | h
    · exact absurd h (by decide)
    · exact (hhex _ h).1 rfl
  have hdir : directive? (u :: '+' :: (hex ++ ['}'])) = some (u :: '+' :: hex, []) :=
    directive?_eq_some_iff.mpr ⟨u, '+' :: hex, rfl, hbrace, rfl⟩
  have hts : ts = [((Directive.codePoint? hex).map .unicode).getD
      (.invalidUnicode (String.ofList (u :: '+' :: hex)))] := by
    dsimp only [ts, ofText]
    rw [String.toList_ofList, ofChars_directive hmode hdir, Directive.token_codePoint hu hgap,
      ofChars]
  rw [hts]
  simp only [← Directive.codePoint?_eq_some_iff]
  cases Directive.codePoint? hex <;> simp

/-- The letter before the plus sign and the digits may be small. -/
theorem ofText_codePoint_of_small :
    RawMode.raw ≠ .rawText ∧ (∀ c ∈ "1f600".toList, c ≠ '}' ∧ c ≠ ' ' ∧ c ≠ '\t') ∧
    WritesScalar "1f600".toList 0x1F600 ∧
    ofText .raw "\x7bu+1f600\x7d" = [.unicode 0x1F600] := by
  have hmode : RawMode.raw ≠ .rawText := by decide
  have hhex : ∀ c ∈ "1f600".toList, c ≠ '}' ∧ c ≠ ' ' ∧ c ≠ '\t' := by simp
  have hwrites : WritesScalar "1f600".toList 0x1F600 :=
    ⟨(digits?_eq_some_iff (Nat.le_refl 16)).mp (by decide), by decide, by decide⟩
  exact ⟨hmode, hhex, hwrites, ((ofText_codePoint hmode (.inr rfl) hhex).1 _).mpr (.inl hwrites)⟩

/-- What has a second plus sign writes no code point, and yet it is read as one. -/
theorem ofText_second_plus :
    ofText .notRaw "\x7bU++41\x7d" = [.unicode 0x41] ∧ ¬∃ cp, WritesScalar "+41".toList cp := by
  constructor
  · have hdir : directive? "U++41\x7d".toList = some ("U++41".toList, []) := by decide
    have htoken : Directive.token true "U++41".toList = .unicode 0x41 := by decide
    refine (ofChars_directive (by decide) hdir).trans ?_
    rw [htoken, ofChars]
  · rintro ⟨cp, h⟩
    exact h.writes.not_mem (c := '+') (Nat.le_refl 16) (by decide) (by decide)

end Token

end KeySynth
