import KeySynth.Proofs.Desktop.Keys
import KeySynth.Proofs.Key.UsLayout
import KeySynth.Proofs.Text.Utf16

/-!
What is read off the events of a desktop.

A screen reads events in order. A key that goes down types what it types on the US layout with
Shift and CapsLock as they are by then; packets carry characters in UTF-16 units.
-/

namespace KeySynth

open Modifier

/-- A desktop whose keys are watched, and the text they have typed. -/
structure Screen where
  desktop : Desktop
  half : Option UInt16
  text : List Char

namespace Screen

/-- A screen with nothing on it yet. -/
def blank (d : Desktop) : Screen := ⟨d, none, []⟩

variable (s : Screen)

/-- A Shift key is down. -/
def shift : Bool := decide (.lshift ∈ s.desktop.down) || decide (.rshift ∈ s.desktop.down)

def capsLock : Bool := decide (.capsLock ∈ s.desktop.toggled)

/-- What a key that goes down types, and what waits after it. -/
def typed (k : KeyRecord) : Option UInt16 × List Char :=
  if k.up then (s.half, [])
  else if k.unicode then Text.joinUnit s.half k.sc
  else (s.half, (UsLayout.char? k.vk s.shift s.capsLock).toList)

/-- The screen after one more unit of a character. -/
def joined (unit : UInt16) : Screen :=
  { s with
    half := (Text.joinUnit s.half unit).1
    text := s.text ++ (Text.joinUnit s.half unit).2 }

/-- The screen after one more event. -/
def read : EventRecord → Screen
  | .key k => ⟨s.desktop.apply (.key k), (s.typed k).1, s.text ++ (s.typed k).2⟩
  | e => { s with desktop := s.desktop.apply e }

end Screen

/-- The text that events type, beginning at a desktop. -/
def Desktop.reading (d : Desktop) (es : List EventRecord) : String :=
  String.ofList (es.foldl Screen.read (.blank d)).text

namespace Screen

/-- What a screen shows, and how Shift and CapsLock stand. -/
structure Shows (s : Screen) (shift caps : Bool) (text : List Char) : Prop where
  half : s.half = none
  text : s.text = text
  lshift : .lshift ∈ s.desktop.down ↔ shift = true
  rshift : .rshift ∉ s.desktop.down
  caps : .capsLock ∈ s.desktop.toggled ↔ caps = true
  capsUp : .capsLock ∉ s.desktop.down

/-- Nothing has been typed where no key is down. -/
lemma shows_blank {d : Desktop} (hdown : ∀ v, v ∉ d.down) :
    (blank d).Shows false (decide (.capsLock ∈ d.toggled)) [] :=
  ⟨rfl, rfl, by simp [blank, hdown], hdown _, by simp [blank], hdown _⟩

namespace Shows

variable {s : Screen} {shift caps : Bool} {text : List Char} {k : KeyRecord}

lemma shift_eq (h : s.Shows shift caps text) : s.shift = shift := by
  simp [Screen.shift, h.lshift, h.rshift]

lemma capsLock_eq (h : s.Shows shift caps text) : s.capsLock = caps := by
  simp [Screen.capsLock, h.caps]

/-- What a key types when no half of a character is waiting. -/
lemma typed_eq (h : s.Shows shift caps text) (hu : k.unicode = false) :
    s.typed k = (none, if k.up then [] else (UsLayout.char? k.vk shift caps).toList) := by
  unfold Screen.typed
  rw [h.shift_eq, h.capsLock_eq, h.half, if_neg (by simp [hu] : ¬k.unicode = true)]
  split_ifs <;> rfl

/-- What is read of a key that is no CapsLock, no right Shift and no AltGr. -/
lemma key (h : s.Shows shift caps text) (hu : k.unicode = false)
    (hk : Desktop.keyOf k ∉ [VirtualKey.capsLock, .rshift, .ralt]) :
    (s.read (.key k)).Shows (if Desktop.keyOf k = .lshift then !k.up else shift) caps
      (text ++ if k.up then [] else (UsLayout.char? k.vk shift caps).toList) := by
  simp only [List.mem_cons, List.not_mem_nil, or_false, not_or] at hk
  have hdown : ∀ v, v ∈ (s.desktop.apply (.key k)).down ↔
      if v = Desktop.keyOf k then k.up = false else v ∈ s.desktop.down := by
    intro v
    rw [Desktop.mem_down_applyKey hu]
    simp [hk.2.2]
  have hcaps : .capsLock ∈ (s.desktop.apply (.key k)).toggled ↔
      .capsLock ∈ s.desktop.toggled := by
    rw [Desktop.mem_toggled_applyKey, if_neg fun hc => hk.1 hc.1.symm]
  constructor
  case half => exact congrArg Prod.fst (h.typed_eq hu)
  case text =>
    rw [← h.text]
    exact congrArg (fun t => s.text ++ t.2) (h.typed_eq hu)
  case lshift =>
    refine (hdown _).trans ?_
    by_cases hl : Desktop.keyOf k = .lshift
    · simp [hl]
    · rw [if_neg (Ne.symm hl), if_neg hl]
      exact h.lshift
  case rshift =>
    rw [Screen.read, hdown, if_neg (Ne.symm hk.2.1)]
    exact h.rshift
  case caps => exact hcaps.trans h.caps
  case capsUp =>
    rw [Screen.read, hdown, if_neg (Ne.symm hk.1)]
    exact h.capsUp

/-- A tap of CapsLock switches it and types nothing. -/
lemma capsTap {k' : KeyRecord} (h : s.Shows shift caps text)
    (hk : Desktop.keyOf k = .capsLock ∧ k.vk = .capsLock ∧ k.unicode = false ∧ k.up = false)
    (hk' : Desktop.keyOf k' = .capsLock ∧ k'.unicode = false ∧ k'.up = true) :
    ((s.read (.key k)).read (.key k')).Shows shift (!caps) text := by
  obtain ⟨hkey, hvk, hu, hup⟩ := hk
  obtain ⟨hkey', hu', hup'⟩ := hk'
  have hdown : ∀ v, v ∈ ((s.desktop.apply (.key k)).apply (.key k')).down ↔
      v ≠ .capsLock ∧ v ∈ s.desktop.down := by
    intro v
    have hr : VirtualKey.capsLock ≠ .ralt := by decide
    rw [Desktop.mem_down_applyKey hu', Desktop.mem_down_applyKey hu, hkey, hkey']
    by_cases hv : v = .capsLock <;> simp [hv, hup', hr]
  have hcaps : .capsLock ∈ ((s.desktop.apply (.key k)).apply (.key k')).toggled ↔
      .capsLock ∉ s.desktop.toggled := by
    rw [Desktop.mem_toggled_applyKey, if_neg (by simp [hup']), Desktop.mem_toggled_applyKey,
      if_pos ⟨hkey.symm, hu, hup, by rw [hkey]; rfl, h.capsUp⟩]
  have hnone : s.typed k = (none, []) := by
    rw [h.typed_eq hu, hvk]
    split_ifs <;> rfl
  have hnone' : (s.read (.key k)).typed k' = (none, []) := by
    rw [Screen.typed, if_pos hup', Screen.read, hnone]
  constructor
  case half => exact congrArg Prod.fst hnone'
  case text =>
    change (s.text ++ (s.typed k).2) ++ ((s.read (.key k)).typed k').2 = text
    rw [hnone, hnone', List.append_nil, List.append_nil, h.text]
  case lshift => exact (hdown _).trans ((and_iff_right (by decide)).trans h.lshift)
  case rshift => exact fun hr => h.rshift ((hdown _).mp hr).2
  case caps =>
    refine hcaps.trans ?_
    rw [h.caps]
    cases caps <;> simp
  case capsUp => exact fun hc => ((hdown _).mp hc).1 rfl

end Shows

/-- Packets type their units and touch no key. -/
lemma foldl_packets (s : Screen) (tag : Tag) (units : List UInt16) :
    (EventRecord.packets tag units).foldl read s = units.foldl joined s := by
  induction units generalizing s with
  | nil => rfl
  | cons u units ih =>
    have hdown : s.read (.packet tag u false) = s.joined u := rfl
    have hup : (s.joined u).read (.packet tag u true) = s.joined u := by
      simp [EventRecord.packet, read, typed, Desktop.apply_key, Desktop.applyKey]
    rw [EventRecord.packets, List.flatMap_cons, List.foldl_append, List.foldl_cons,
      List.foldl_cons, hdown, hup]
    exact ih _

lemma foldl_joined (s : Screen) (units : List UInt16) :
    units.foldl joined s = { s with
      half := (Text.joinUnits s.half units).1
      text := s.text ++ (Text.joinUnits s.half units).2 } := by
  induction units generalizing s with
  | nil => simp [Text.joinUnits]
  | cons u units ih =>
    rw [List.foldl_cons, ih]
    simp [joined, Text.joinUnits]

/-- The units of a character type the character. -/
lemma Shows.join {s : Screen} {shift caps : Bool} {text : List Char} (h : s.Shows shift caps text)
    (c : Char) : ((Text.utf16Units c.toNat).foldl joined s).Shows shift caps (text ++ [c]) := by
  rw [foldl_joined, h.half, Text.joinUnits_utf16Units (Text.isScalar_toNat c), Char.ofNat_toNat,
    h.text]
  exact ⟨rfl, rfl, h.lshift, h.rshift, h.caps, h.capsUp⟩

end Screen

end KeySynth
