import KeySynth.Proofs.Desktop.Keys
import KeySynth.Proofs.Text.Utf16

/-!
An editor at the other end of a desktop.

The keys that it knows are Backspace, Enter and Tab; packets carry characters in UTF-16 units. It
looks at the keys that go down, whatever modifiers or locks there may be.
-/

namespace KeySynth

/-- A text that is edited at its end, and the first half of a character. -/
structure Editor where
  text : List Char
  half : Option UInt16

namespace Editor

/-- An editor that has been given a text. -/
def of (text : List Char) : Editor := ⟨text, none⟩

/-- What a key makes of a text. -/
def press (vk : VirtualKey) (text : List Char) : List Char :=
  if vk = .backspace then text.dropLast
  else if vk = .enter then text ++ ['\n']
  else if vk = .tab then text ++ ['\t']
  else text

variable (s : Editor)

/-- The editor after one more unit of a character. -/
def joined (unit : UInt16) : Editor :=
  ⟨s.text ++ (Text.joinUnit s.half unit).2, (Text.joinUnit s.half unit).1⟩

/-- The editor after one more event. -/
def read : EventRecord → Editor
  | .key k =>
    if k.up then s
    else if k.unicode then s.joined k.sc
    else { s with text := press k.vk s.text }
  | .mouse _ | .delay _ => s

/-- The text that events make of a text. -/
def edit (text : String) (es : List EventRecord) : String :=
  String.ofList (es.foldl read (.of text.toList)).text

/-- A key that is no packet edits the text when it goes down. -/
lemma read_key {text : List Char} {k : KeyRecord} (hu : k.unicode = false) :
    (of text).read (.key k) = of (if k.up then text else press k.vk text) := by
  simp only [read, hu, Bool.false_eq_true, if_false]
  split_ifs <;> rfl

lemma foldl_packets (tag : Tag) (units : List UInt16) :
    (EventRecord.packets tag units).foldl read s = units.foldl joined s := by
  induction units generalizing s with
  | nil => rfl
  | cons u units ih =>
    have hpair : (s.read (.packet tag u false)).read (.packet tag u true) = s.joined u := rfl
    rw [EventRecord.packets, List.flatMap_cons, List.foldl_append, List.foldl_cons,
      List.foldl_cons, hpair]
    exact ih _

lemma foldl_joined (units : List UInt16) :
    units.foldl joined s =
      ⟨s.text ++ (Text.joinUnits s.half units).2, (Text.joinUnits s.half units).1⟩ := by
  induction units generalizing s with
  | nil => simp [Text.joinUnits]
  | cons u units ih =>
    rw [List.foldl_cons, ih]
    simp [joined, Text.joinUnits]

/-- The packets of a character add the character. -/
lemma foldl_packets_char (text : List Char) (tag : Tag) (c : Char) :
    (EventRecord.packets tag (Text.utf16Units c.toNat)).foldl read (of text) =
      of (text ++ [c]) := by
  rw [foldl_packets, foldl_joined, of, Text.joinUnits_utf16Units (Text.isScalar_toNat c),
    Char.ofNat_toNat, of]

end Editor

end KeySynth
