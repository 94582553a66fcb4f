import KeySynth.Config.File
import KeySynth.Proofs.Toml.Document

/-!
Saved configurations load back, by any reader that reads plain documents.
-/

namespace KeySynth.Config

open Toml

/-! ### What is written -/

/-- The numbers have 32 bits, and the texts need no escapes. -/
structure Storable (c : Config) : Prop where
  ints : ∀ n ∈ [c.keyDelay, c.pressDuration, c.keyDelayPlay, c.pressDurationPlay, c.mouseDelay,
    c.mouseDelayPlay, c.hotkeyTimeout], -0x80000000 ≤ n ∧ n ≤ 0x7FFFFFFF
  texts : ∀ s ∈ [c.sendMode, c.coordMode, c.maskKey], ∀ ch ∈ s.toList, isLiteral ch = true

/-- What the lines of a file define. -/
def entries (c : Config) : List Entries :=
  [[("key_delay", .integer c.keyDelay)],
   [("press_duration", .integer c.pressDuration)],
   [("key_delay_play", .integer c.keyDelayPlay)],
   [("press_duration_play", .integer c.pressDurationPlay)],
   [("mouse_delay", .integer c.mouseDelay)],
   [("mouse_delay_play", .integer c.mouseDelayPlay)],
   [("send_mode", .text c.sendMode)],
   [("send_level", .integer c.sendLevel.toNat)],
   [("default_mouse_speed", .integer c.mouseSpeed.toNat)],
   [("store_caps_lock_mode", .boolean c.storeCapsLock)],
   [("coord_mode", .text c.coordMode)],
   [],
   [],
   [("hotkey_modifier_timeout", .integer c.hotkeyTimeout)],
   [("menu_mask_key", .text c.maskKey)],
   [("max_threads", .integer c.maxThreads.toNat)],
   [("max_threads_per_hotkey", .integer c.maxThreadsPerHotkey.toNat)]]

lemma spells_int {n : Int} (h : -0x80000000 ≤ n ∧ n ≤ 0x7FFFFFFF) :
    Spells (toString n) (.integer n) :=
  .integer (by omega) (by omega)

lemma spells_word (w : UInt32) : Spells (toString w) (.integer w.toNat) := by
  have hw : w.toNat < 0x100000000 := w.toNat_lt
  exact .integer (n := w.toNat) (by omega) (by omega)

section Lines

variable {head rest : String} (key : String)

lemma line_bare {text : String} {v : Value} (htext : Spells text v)
    (hkey : isBare key = true) (hhead : head = key ++ " = ") (hrest : isTail rest.toList = true) :
    Line (head ++ text ++ rest) [(key, v)] := by
  rw [hhead]
  exact .define hkey htext hrest

/-- The quotes around a text are written with what stands before and after it. -/
lemma line_text {s : String} (h : ∀ ch ∈ s.toList, isLiteral ch = true) (hkey : isBare key = true)
    (hhead : head = key ++ " = " ++ "\"") (hclose : rest.toList.head? = some '"')
    (hrest : isTail rest.toList.tail = true) : Line (head ++ s ++ rest) [(key, .text s)] := by
  obtain ⟨tail, rfl⟩ : ∃ tail, rest = "\"" ++ tail := by
    obtain ⟨cs, hcs⟩ := List.head?_eq_some_iff.mp hclose
    exact ⟨String.ofList cs, String.toList_inj.mp (by simp [hcs])⟩
  have hline : head ++ s ++ ("\"" ++ tail) = key ++ " = " ++ ("\"" ++ s ++ "\"") ++ tail := by
    rw [hhead]
    simp only [String.append_assoc]
  rw [hline]
  exact .define hkey (.text h) (by simpa using hrest)

end Lines

/-- Each line defines its key. -/
lemma lines_entries {c : Config} (h : c.Storable) : List.Forall₂ Line c.lines c.entries := by
  obtain ⟨hints, htexts⟩ := h
  simp only [List.forall_mem_cons] at hints htexts
  obtain ⟨h1, h2, h3, h4, h5, h6, h7, -⟩ := hints
  obtain ⟨t1, t2, t3, -⟩ := htexts
  refine .cons (line_bare _ (spells_int h1) (by decide) rfl (by decide +kernel)) ?_
  refine .cons (line_bare _ (spells_int h2) (by decide) rfl (by decide +kernel)) ?_
  refine .cons (line_bare _ (spells_int h3) (by decide) rfl (by decide +kernel)) ?_
  refine .cons (line_bare _ (spells_int h4) (by decide) rfl (by decide +kernel)) ?_
  refine .cons (line_bare _ (spells_int h5) (by decide) rfl (by decide +kernel)) ?_
  refine .cons (line_bare _ (spells_int h6) (by decide) rfl (by decide +kernel)) ?_
  refine .cons (line_text _ t1 (by decide) rfl rfl (by decide +kernel)) ?_
  refine .cons (line_bare _ (spells_word _) (by decide) rfl (by decide +kernel)) ?_
  refine .cons (line_bare _ (spells_word _) (by decide) rfl (by decide +kernel)) ?_
  refine .cons (line_bare _ (.flag _) (by decide) rfl (by decide +kernel)) ?_
  refine .cons (line_text _ t2 (by decide) rfl rfl (by decide +kernel)) ?_
  refine .cons .blank ?_
  refine .cons (.comment (by decide : " Hotkeys".toList.all isPlain = true)) ?_
  refine .cons (line_bare _ (spells_int h7) (by decide) rfl (by decide +kernel)) ?_
  refine .cons (line_text _ t3 (by decide) rfl rfl (by decide +kernel)) ?_
  refine .cons (line_bare _ (spells_word _) (by decide) rfl (by decide +kernel)) ?_
  exact .cons (line_bare _ (spells_word _) (by decide) rfl (by decide +kernel)) .nil

/-! ### What is read -/

/-- No two lines define the same key. -/
lemma nodup_entries (c : Config) : (c.entries.flatten.map Prod.fst).Nodup := by
  simp [entries]

/-- A key that is there once is read as `f` reads its value. -/
lemma field_of_mem {α : Type} {es : Entries} (hnew : (es.map Prod.fst).Nodup) {key : String}
    {v : Value} (hmem : (key, v) ∈ es) {f : Value → Option α} {a : α} (hf : f v = some a)
    (default : α) : field es key f default = .ok a := by
  have hlookup : es.lookup key = some v := by
    obtain ⟨before, after, rfl⟩ := List.append_of_mem hmem
    refine List.lookup_eq_some_iff.mpr ⟨before, after, rfl, fun e he => bne_iff_ne.mpr fun hk => ?_⟩
    rw [List.map_append, List.nodup_append] at hnew
    exact hnew.2.2 e.1 (List.mem_map_of_mem he) key (by simp) hk.symm
  rw [field, hlookup]
  simp only [hf]

lemma word?_toNat (w : UInt32) : word? (.integer w.toNat) = some w := by
  have hw : (w.toNat : Int) < UInt32.size := Int.ofNat_lt.mpr w.toNat_lt
  rw [word?, if_pos ⟨Int.natCast_nonneg _, hw⟩]
  simp

lemma ofEntries_entries {c : Config} (h : c.Storable) : ofEntries c.entries.flatten = .ok c := by
  have hnew := nodup_entries c
  obtain ⟨hints, -⟩ := h
  simp only [List.forall_mem_cons] at hints
  obtain ⟨h1, h2, h3, h4, h5, h6, h7, -⟩ := hints
  have hint {key : String} {n : Int} (hm : (key, Value.integer n) ∈ c.entries.flatten)
      (hn : -0x80000000 ≤ n ∧ n ≤ 0x7FFFFFFF) := field_of_mem hnew hm (f := int?) (if_pos hn)
  have hword {key : String} {w : UInt32} (hm : (key, Value.integer w.toNat) ∈ c.entries.flatten) :=
    field_of_mem hnew hm (f := word?) (word?_toNat w)
  have htext {key s : String} (hm : (key, Value.text s) ∈ c.entries.flatten) :=
    field_of_mem hnew hm (f := text?) rfl
  have hflag {key : String} {b : Bool} (hm : (key, Value.boolean b) ∈ c.entries.flatten) :=
    field_of_mem hnew hm (f := flag?) rfl
  simp only [ofEntries]
  rw [hint (n := c.keyDelay) (by simp [entries]) h1,
    hint (n := c.pressDuration) (by simp [entries]) h2,
    hint (n := c.keyDelayPlay) (by simp [entries]) h3,
    hint (n := c.pressDurationPlay) (by simp [entries]) h4,
    hint (n := c.mouseDelay) (by simp [entries]) h5,
    hint (n := c.mouseDelayPlay) (by simp [entries]) h6,
    htext (s := c.sendMode) (by simp [entries]), hword (w := c.sendLevel) (by simp [entries]),
    hword (w := c.mouseSpeed) (by simp [entries]), hflag (b := c.storeCapsLock) (by simp [entries]),
    htext (s := c.coordMode) (by simp [entries]),
    hint (n := c.hotkeyTimeout) (by simp [entries]) h7, htext (s := c.maskKey) (by simp [entries]),
    hword (w := c.maxThreads) (by simp [entries]),
    hword (w := c.maxThreadsPerHotkey) (by simp [entries])]
  rfl

/-- Nothing counts but what is found under each key. -/
lemma ofEntries_congr {es es' : Entries} (h : ∀ key, es.lookup key = es'.lookup key) :
    ofEntries es = ofEntries es' := by
  simp only [ofEntries, field, h]

/-! ### There and back -/

variable {read : Reader}

/-- What is written is text, and the text is what was written. -/
lemma load_render_eq (hread : read.ReadsPlain) {c : Config} (h : c.Storable) :
    load read (.file c.render.toUTF8) = .ok c.clamped := by
  have hbytes : String.fromUTF8? c.render.toUTF8 = some c.render := dif_pos c.render.isValidUTF8
  obtain ⟨es, hes, hlookup⟩ := hread _ _ (lines_entries h) (nodup_entries c)
  have hrender : read c.render = .ok es := hes
  rw [load, ofBytes, hbytes]
  simp only [ofText, hrender, ofEntries_congr hlookup, ofEntries_entries h]
  rfl

lemma Storable.clamped {c : Config} (h : c.Storable) : c.clamped.Storable := by
  have hraise {n : Int} (hn : -0x80000000 ≤ n ∧ n ≤ 0x7FFFFFFF) :
      -0x80000000 ≤ max n (-1) ∧ max n (-1) ≤ 0x7FFFFFFF := by omega
  obtain ⟨hints, htexts⟩ := h
  refine ⟨?_, htexts⟩
  simp only [List.forall_mem_cons] at hints ⊢
  obtain ⟨h1, h2, h3, h4, h5, h6, h7, -⟩ := hints
  exact ⟨hraise h1, hraise h2, hraise h3, hraise h4, hraise h5, hraise h6, h7, by simp⟩

lemma max_min_max (w : UInt32) : max 1 (min (max 1 (min w 255)) 255) = max 1 (min w 255) := by
  have hle : max 1 (min w 255) ≤ 255 := by
    change (if 1 ≤ min w 255 then min w 255 else 1) ≤ 255
    split
    · exact Std.min_le_right
    · decide
  have hge : 1 ≤ max 1 (min w 255) := by
    change 1 ≤ if 1 ≤ min w 255 then min w 255 else 1
    split
    · assumption
    · decide
  rw [Std.min_eq_if, if_pos hle]
  exact if_pos hge

/-- Numbers in their ranges stay as they are. -/
lemma clamped_clamped (c : Config) : c.clamped.clamped = c.clamped := by
  have hcap (w hi : UInt32) : min (min w hi) hi = min w hi := by
    rw [Std.min_eq_if, if_pos Std.min_le_right]
  have hraise (n : Int) : max (max n (-1)) (-1) = max n (-1) := by omega
  simp only [Config.clamped, hcap, hraise, max_min_max]

/-- **A saved configuration loads back with its numbers in their ranges**, and everything else as
it was; saved again, it loads back as it is. All that is asked of the reader is that it reads plain
documents. -/
theorem load_render (hread : read.ReadsPlain) {c : Config} (h : c.Storable) :
    ∃ d : Config, load read (.file c.render.toUTF8) = .ok d ∧
      load read (.file d.render.toUTF8) = .ok d ∧
      d = { c with
        sendLevel := min c.sendLevel 100
        mouseSpeed := min c.mouseSpeed 100
        maxThreads := max 1 (min c.maxThreads 255)
        maxThreadsPerHotkey := max 1 (min c.maxThreadsPerHotkey 255)
        keyDelay := max c.keyDelay (-1)
        pressDuration := max c.pressDuration (-1)
        keyDelayPlay := max c.keyDelayPlay (-1)
        pressDurationPlay := max c.pressDurationPlay (-1)
        mouseDelay := max c.mouseDelay (-1)
        mouseDelayPlay := max c.mouseDelayPlay (-1) } := by
  refine ⟨c.clamped, load_render_eq hread h, ?_, rfl⟩
  rw [load_render_eq hread h.clamped, clamped_clamped]

/-- Numbers out of their ranges, and a text that looks like a comment, by the reader of this
library. -/
theorem load_render_of_unruly :
    ∃ d : Config,
      load Toml.read (.file (render
        { keyDelay := -0x80000000
          sendMode := "a # b"
          sendLevel := 101
          maskKey := ""
          maxThreads := 0
          maxThreadsPerHotkey := 0xFFFFFFFF }).toUTF8) = .ok d ∧
      load Toml.read (.file d.render.toUTF8) = .ok d ∧
      d =
        { keyDelay := -1
          sendMode := "a # b"
          sendLevel := 100
          maskKey := ""
          maxThreads := 1
          maxThreadsPerHotkey := 255 } :=
  load_render readsPlain_read ⟨by simp, by simp [isLiteral, isPlain]⟩

end KeySynth.Config
