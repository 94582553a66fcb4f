import KeySynth.Hotstring.Replace
import KeySynth.Proofs.Desktop.Editor
import KeySynth.Proofs.Engine.Idle
import KeySynth.Proofs.Engine.Recording
import KeySynth.Proofs.Script.Quote

/-!
A hotstring replacement edits the text exactly.

An editor goes along with the events of each send. Between two tokens no key is down and the editor
has just the text that it should have; what is typed is erased by as many Backspaces as it has
characters, and a literal text is added character by character.
-/

namespace KeySynth

open Modifier

/-! ### What is read of the sends -/

namespace Directive

/-- Any number of Backspaces is one directive, if it is one that a press can have. -/
lemma token_backspaces (n : Nat) (first : Bool) :
    token first ('B' :: 'S' :: ' ' :: Nat.toDigits 10 n) =
      if n < UInt32.size then .key (.named (.key .backspace VirtualKey.backspace.scan)) (.press n)
      else .unknown (String.ofList ('B' :: 'S' :: ' ' :: Nat.toDigits 10 n)) := by
  have hname : name ('B' :: 'S' :: ' ' :: Nat.toDigits 10 n) = ['B', 'S'] := rfl
  have hrest : rest ('B' :: 'S' :: ' ' :: Nat.toDigits 10 n) = Nat.toDigits 10 n := by
    have hspace : rest ('B' :: 'S' :: ' ' :: Nat.toDigits 10 n) =
        Text.trim (Nat.toDigits 10 n) := rfl
    rw [hspace, Text.trim_eq fun c hc => Text.isBlank_of_isDigit (Text.isDigit_toDigits c hc)]
  have hkey : NamedKey.ofName? ['B', 'S'] =
      some (.key .backspace VirtualKey.backspace.scan) := by decide
  have hupper : ['B', 'S'].map Char.toUpper = ['B', 'S'] := by decide
  unfold token
  rw [hname, hrest]
  dsimp only
  rw [hupper]
  by_cases hn : n < UInt32.size <;> simp [isBlind, key, action?_toDigits, hn, hkey]

end Directive

lemma Token.ofText_backspaces (n : Nat) :
    ofText .notRaw ("\x7bBS " ++ toString n ++ "\x7d") =
      [if n < UInt32.size then .key (.named (.key .backspace VirtualKey.backspace.scan)) (.press n)
        else .unknown (String.ofList ('B' :: 'S' :: ' ' :: Nat.toDigits 10 n))] := by
  have hlist : ("\x7bBS " ++ toString n ++ "\x7d").toList =
      '{' :: ('B' :: 'S' :: ' ' :: Nat.toDigits 10 n ++ ['}']) := by
    rw [String.toList_append, String.toList_append, Nat.toString_eq_repr, Nat.toList_repr]
    rfl
  have hopen : ∀ c ∈ 'S' :: ' ' :: Nat.toDigits 10 n, (c != '}') = true := by
    intro c hc
    rw [bne_iff_ne]
    rintro rfl
    simp only [List.mem_cons] at hc
    rcases hc with hc | hc | hc
    · exact absurd hc (by decide)
    · exact absurd hc (by decide)
    · exact absurd (Text.isDigit_toDigits _ hc) (by decide)
  have hdrop : ('S' :: ' ' :: Nat.toDigits 10 n ++ ['}']).dropWhile (· != '}') = ['}'] :=
    List.dropWhile_append_of_pos hopen
  have htake : ('S' :: ' ' :: Nat.toDigits 10 n ++ ['}']).takeWhile (· != '}') =
      'S' :: ' ' :: Nat.toDigits 10 n :=
    (List.takeWhile_append_of_pos hopen).trans (List.append_nil _)
  have hd : directive? ('B' :: 'S' :: ' ' :: Nat.toDigits 10 n ++ ['}']) =
      some ('B' :: 'S' :: ' ' :: Nat.toDigits 10 n, []) := by
    simp only [List.cons_append] at hdrop htake ⊢
    rw [directive?, hdrop, htake]
  rw [ofText, hlist, ofChars_directive (by decide) hd, Directive.token_backspaces, ofChars]

namespace Run

/-- An idle run with nothing down, whose events take an editor from one text to another. -/
structure Edits (d : Desktop) (mode : RawMode) (before after : List Char) (r : Run Desktop) :
    Prop where
  idle : r.Idle
  raw : r.raw = mode
  logical : r.ledger.logical = ∅
  down : ∀ v, v ∉ (r.desk d).down
  edited : r.sent.foldl Editor.read (.of before) = .of after

namespace Edits

variable {d : Desktop} {mode : RawMode} {before after : List Char} {r s : Run Desktop}
  (h : Edits d mode before after r)
include h

/-- What is sent besides leaves no key down. -/
lemma of_sent {es : List EventRecord} {text : List Char} (hs : s.still = r.still)
    (hl : s.ledger.logical = r.ledger.logical) (hsent : s.sent = r.sent ++ es)
    (hdown : ∀ v, v ∉ (es.foldl Desktop.apply (r.desk d)).down)
    (hes : es.foldl Editor.read (.of after) = .of text) : Edits d mode before text s where
  idle := h.idle.of_still hs
  raw := (congrArg (·.raw) hs).trans h.raw
  logical := hl.trans h.logical
  down := by
    rw [desk, hsent, List.foldl_append]
    exact hdown
  edited := by
    rw [hsent, List.foldl_append, h.edited, hes]

lemma pause (p : Pause) : Edits d mode before after (r.pause p) :=
  h.of_sent (r.still_pause p) (congrArg (·.logical) (r.ledger_pause p))
    ((r.sent_pause p).trans (List.append_nil _).symm) h.down rfl

/-- **A key that is no modifier edits the text** and is up again. -/
lemma strike (vk : VirtualKey) (h0 : vk ≠ 0) (hm : ofKey? vk = none) (sc : ScanCode) :
    Edits d mode before (Editor.press vk after) (r.strike .downUp vk sc) := by
  obtain ⟨k, hk, hu, hup, hkey, hvk⟩ := r.carried_side vk h0 hm sc false r.tag
  set q := (r.emitKey vk sc false r.tag).pressPause with hq
  obtain ⟨k', hk', hu', hup', hkey', -⟩ := q.carried_side vk h0 hm sc true r.tag
  have hsent : (r.strike .downUp vk sc).sent = r.sent ++ [.key k, .key k'] := by
    have hdown : q.sent = r.sent ++ [.key k] := by
      rw [hq, pressPause, sent_pause, emitKey_eq, sent_emit, hk]
    rw [Run.strike, ← hq, emitKey_eq, sent_emit, hdown, hk', List.append_assoc]
    rfl
  have hl : (r.strike .downUp vk sc).ledger.logical = r.ledger.logical := by
    rw [Run.strike, logical_emitKey_of_none _ h0 hm, pressPause, ledger_pause,
      logical_emitKey_of_none _ h0 hm]
  have hralt : vk ≠ .ralt := by
    rintro rfl
    cases hm
  refine h.of_sent (r.still_strike .downUp vk sc) hl hsent (fun v hv => ?_) ?_
  · simp only [List.foldl_cons, List.foldl_nil] at hv
    rw [Desktop.mem_down_applyKey hu', Desktop.mem_down_applyKey hu, hkey, hkey', hup'] at hv
    simp only [hralt, false_and, and_false, or_false] at hv
    split_ifs at hv
    exact h.down v hv
  · rw [List.foldl_cons, List.foldl_cons, List.foldl_nil, Editor.read_key hu, Editor.read_key hu',
      hup, hup', hvk]
    rfl

lemma tapCaps : Edits d mode before after (r.tapLock .capsLock) :=
  (h.strike .capsLock (by decide) (by decide) 0).pause _

/-- Nothing is held for a key, and nothing has to be let go of after it. -/
lemma sendKey (vk : VirtualKey) (h0 : vk ≠ 0) (hm : ofKey? vk = none) (sc : ScanCode)
    (n : Nat) : Edits d mode before (Nat.repeat (Editor.press vk) n after)
      (r.sendKey vk sc ∅ .downUp n) := by
  have once : ∀ {text} {s : Run Desktop}, Edits d mode before text s →
      Edits d mode before (Editor.press vk text) (s.sendKeyOnce vk sc ∅ .downUp) := by
    intro text s hs
    have hready : s.reconcile (∅ ∪ s.kept) .both = s := by
      rw [hs.idle.kept, Mask.union_empty]
      exact reconcile_empty hs.logical .both
    unfold sendKeyOnce
    dsimp only
    rw [hready, dropAdded_eq (by decide)]
    exact (hs.strike vk h0 hm sc).pause _
  induction n with
  | zero => exact h
  | succ n ih => exact once ih

lemma sendCodePoint (c : Char) :
    Edits d mode before (after ++ [c]) (r.sendCodePoint c.toNat .downUp) := by
  have hready : r.ready = r := by
    rw [ready, h.idle.wanted]
    exact reconcile_empty h.logical .both
  obtain ⟨hs, hl, hsent⟩ := foldl_emitUnit (Text.utf16Units c.toNat) r
  unfold Run.sendCodePoint
  rw [if_pos (Text.isScalar_toNat c), hready]
  refine (h.of_sent hs hl hsent ?_ (Editor.foldl_packets_char after r.tag c)).pause _
  rw [Desktop.foldl_apply_packets]
  exact h.down

lemma clearMods : r.clearMods = r := by
  unfold Run.clearMods
  rw [← h.idle.keyMods]

lemma putBack (capsLock : Bool) : Edits d mode before after (r.putBack capsLock) := by
  unfold Run.putBack
  rw [h.idle.restored, reconcile_empty h.logical]
  split_ifs
  · exact h.tapCaps
  · exact h

lemma storeCapsLock : Edits d mode before after r.storeCapsLock := by
  unfold Run.storeCapsLock
  split_ifs
  · exact h.tapCaps
  · exact h

omit h in
/-- **A literal character is added to the text**, by its key or as it is. -/
lemma act_char (h : Edits d .rawText before after r) (c : Char) :
    Edits d .rawText before (after ++ [c]) (r.act (.char c)) := by
  have hsend : Edits d .rawText before (after ++ [c]) (r.sendChar c .downUp) := by
    unfold Run.sendChar
    rw [h.idle.keyMods]
    split_ifs with henter htab hraw
    · subst henter
      exact h.sendKey .enter (by decide) (by decide) 0 1
    · subst htab
      exact h.sendKey .tab (by decide) (by decide) 0 1
    · exact h.sendCodePoint c
    · exact absurd h.raw hraw
  change Edits d .rawText before (after ++ [c]) (r.sendChar c .downUp).clearMods
  rwa [hsend.clearMods]

lemma act_backspaces (n : Nat) : Edits d mode before
    (Nat.repeat (Editor.press .backspace) n after)
    (r.act (.key (.named (.key .backspace VirtualKey.backspace.scan)) (.press n))) := by
  have hres : r.resolved .backspace VirtualKey.backspace.scan = .backspace := if_neg (by decide)
  have hm : ofKey? (r.resolved .backspace VirtualKey.backspace.scan) = none := by
    rw [hres]
    decide
  have hsend := h.sendKey .backspace (by decide) (by decide) VirtualKey.backspace.scan n
  change Edits d mode before _ (r.sendTarget (.named (.key .backspace _)) (.press n)).clearMods
  rw [r.sendTarget_key hm, hres, h.idle.keyMods]
  exact hsend.clearMods ▸ hsend

omit h in
/-- **A literal text is added character by character.** -/
lemma interpret_literal (h : Edits d .rawText before after r) (cs : List Char) :
    Edits d .rawText before (after ++ cs) (r.interpret (cs.map .char)) := by
  induction cs generalizing after r with
  | nil => rwa [List.append_nil]
  | cons c cs ih =>
    have hstep : r.step (.char c) = r.act (.char c) := by
      rw [step, h.idle.fault, Option.isSome_none, if_neg Bool.false_ne_true]
    rw [List.append_cons]
    exact ih (hstep ▸ h.act_char c)

end Edits

end Run

/-! ### Sends in turn -/

lemma Editor.repeat_press_backspace (n : Nat) (text : List Char) :
    Nat.repeat (press .backspace) n text = text.take (text.length - n) := by
  induction n with
  | zero => simp [Nat.repeat]
  | succ n ih =>
    change (Nat.repeat (press .backspace) n text).dropLast = _
    rw [ih, List.dropLast_eq_take, List.take_take, List.length_take]
    congr 1
    omega

namespace Engine

/-- Room for every one of some sends, each after those before it. -/
def FitsAll {P : Type} [Platform P] : Engine P → List (String × SendOptions) → Prop
  | _, [] => True
  | e, (text, o) :: rest => e.Fits (Token.ofText o.raw text) o ∧ FitsAll (e.send text o).2 rest

/-- Nothing is down and everything that is sent gets through; hotkeys have remapped nothing. -/
structure Neutral (e : Engine Desktop) : Prop where
  works : e.platform.failing = false
  down : ∀ v, v ∉ e.platform.down
  physical : e.platform.physical = ∅
  remapped : e.ledger.remapped = ∅

/-- A call has gone well: what was recorded takes an editor from one text to another, and the engine
is neutral still. -/
structure Brings (e : Engine Desktop) (before after : List Char)
    (out : Except Fault Unit × Engine Desktop) : Prop where
  ok : out.1 = .ok ()
  neutral : out.2.Neutral
  recorded : ∃ es : List EventRecord,
    out.2.platform.log.events = e.platform.log.events ++ es.toArray ∧
      es.foldl Editor.read (.of before) = .of after

lemma settings_send {P : Type} [Platform P] (e : Engine P) (text : String) (o : SendOptions) :
    (e.send text o).2.settings = e.settings := by
  unfold send
  dsimp only
  split_ifs
  · rfl
  · exact congrArg (·.settings) (e.fixed_sendRun (Token.ofText o.raw text) o)

/-- Events that are sent one by one always fit. -/
lemma fitsAll_of_event {P : Type} [Platform P] {sends : List (String × SendOptions)} {e : Engine P}
    (hmode : e.settings.sendMode = .event) (hsends : ∀ x ∈ sends, x.2.mode = none) :
    e.FitsAll sends := by
  induction sends generalizing e with
  | nil => trivial
  | cons x sends ih =>
    obtain ⟨text, o⟩ := x
    have hnone : o.mode = none := hsends (text, o) (by simp)
    have hback : e.backendFor o = .event := by
      rw [backendFor, hnone, Option.getD_none, hmode]
      rfl
    refine ⟨fits_of_event hback _, ih ?_ fun x hx => hsends x (by simp [hx])⟩
    rw [settings_send]
    exact hmode

namespace Brings

variable {e : Engine Desktop} {before mid after : List Char} {text : String} {o : SendOptions}

/-- **A send edits the text as its tokens do.** -/
lemma of_interpret (h : e.Neutral) (hfits : e.Fits (Token.ofText o.raw text) o)
    (hacts : ∀ r, Run.Edits e.platform o.raw before before r →
      Run.Edits e.platform o.raw before after (r.interpret (Token.ofText o.raw text))) :
    e.Brings before after (e.send text o) := by
  set ts := Token.ofText o.raw text with hts
  have hopen : Run.Edits e.platform o.raw before before (e.opened ts o) :=
    { idle := ⟨rfl, restored_opened h.down h.physical h.remapped ts, rfl⟩
      raw := rfl
      logical := heldDown_eq_empty h.down h.physical
      down := h.down
      edited := rfl }
  have hup : Run.Edits e.platform o.raw before after (e.upTo ts o ts) :=
    hacts _ hopen.storeCapsLock
  unfold send
  rw [← hts]
  dsimp only
  split_ifs with hemp
  -- an empty text ends before anything is looked at
  · have hsame := (hacts _ hopen).edited
    rw [List.isEmpty_iff.mp hemp] at hsame
    exact ⟨rfl, h, [], by simp, hsame⟩
  · have htyped := hup.putBack (e.opened ts o).storesCapsLock
    obtain ⟨hlog, hledger, hkeys⟩ := Engine.recorded h.works hfits hup.idle.fault
    obtain ⟨-, hphysical, -, hfailing⟩ := e.platform.foldl_apply_eq (e.typed ts o).sent
    have hremapped : (e.typed ts o).ledger.remapped = ∅ := htyped.idle.remapped
    refine ⟨?_, ⟨?_, fun v hv => ?_, ?_, ?_⟩, (e.typed ts o).sent, hlog, htyped.edited⟩
    · rw [Run.outcome_eq_ok, sendRun_eq, Run.fault_leave]
      exact hup.idle.fault
    · exact (congrArg (·.failing) hkeys).trans (hfailing.trans h.works)
    · exact htyped.down v (Desktop.keys_down hkeys ▸ hv)
    · exact (Desktop.keys_physical hkeys).trans (hphysical.trans h.physical)
    · exact (congrArg (·.remapped) hledger).trans hremapped

/-- As many Backspaces as a text has characters erase it, if a press can be as many. -/
lemma backspaces (h : e.Neutral) (kept typed : List Char)
    (hfits : e.Fits (Token.ofText .notRaw ("\x7bBS " ++ toString typed.length ++ "\x7d")) .plain) :
    e.Brings (kept ++ typed) (if typed.length < UInt32.size then kept else kept ++ typed)
      (e.send ("\x7bBS " ++ toString typed.length ++ "\x7d") .plain) := by
  refine of_interpret h hfits fun r hr => ?_
  change Run.Edits _ _ _ _ (r.interpret (Token.ofText .notRaw _))
  rw [Token.ofText_backspaces, Run.interpret, List.foldl_cons, List.foldl_nil, Run.step,
    hr.idle.fault, Option.isSome_none, if_neg Bool.false_ne_true]
  split_ifs
  · have hact := hr.act_backspaces typed.length
    rwa [Editor.repeat_press_backspace, List.length_append, Nat.add_sub_cancel,
      List.take_left] at hact
  · change Run.Edits _ _ _ _ r.clearMods
    rwa [hr.clearMods]

/-- What follows a send that goes well goes on with the text that it leaves. -/
lemma cons {rest : List (String × SendOptions)} (h : e.Brings before mid (e.send text o))
    (hrest : (e.send text o).2.Brings mid after ((e.send text o).2.sendAll rest)) :
    e.Brings before after (e.sendAll ((text, o) :: rest)) := by
  have hall : e.sendAll ((text, o) :: rest) = (e.send text o).2.sendAll rest := by
    have hok := h.ok
    rw [sendAll]
    cases hs : e.send text o with
    | mk res e' =>
      rw [hs] at hok
      obtain rfl : res = .ok () := hok
      rfl
  obtain ⟨es, hlog, hes⟩ := h.recorded
  obtain ⟨fs, hlog', hfs⟩ := hrest.recorded
  rw [hall]
  refine ⟨hrest.ok, hrest.neutral, es ++ fs, ?_, ?_⟩
  · rw [hlog', hlog, ← List.append_toArray, Array.append_assoc]
  · rw [List.foldl_append, hes, hfs]

/-- Literal texts are added in turn. -/
lemma literals {texts : List String} (h : e.Neutral)
    (hfits : e.FitsAll (texts.map (·, { raw := .rawText }))) (before : List Char) :
    e.Brings before (before ++ texts.flatMap fun s => Script.lineFeeds s.toList)
      (e.sendAll (texts.map (·, { raw := .rawText }))) := by
  induction texts generalizing e before with
  | nil =>
    rw [List.flatMap_nil, List.append_nil]
    exact ⟨rfl, h, [], Array.append_empty.symm, rfl⟩
  | cons text texts ih =>
    have hfirst : e.Brings before (before ++ Script.lineFeeds text.toList)
        (e.send text { raw := .rawText }) := by
      refine of_interpret h hfits.1 fun r hr => ?_
      change Run.Edits _ _ _ _ (r.interpret (Token.ofText .rawText text))
      rw [Script.ofText_literal]
      exact Run.Edits.interpret_literal hr _
    rw [List.flatMap_cons, ← List.append_assoc]
    exact hfirst.cons (ih hfirst.neutral hfits.2 _)

end Brings

/-- The sends of a replacement that is literal: Backspaces, unless nothing was typed, and texts. -/
lemma sends_eq {o : HotstringOptions} (hback : o.backspace = true) (hraw : o.raw = .rawText)
    (typed replacement : String) : ∃ texts : List String,
    o.sends typed replacement = (if 0 < typed.toList.length then
        [("\x7bBS " ++ toString typed.toList.length ++ "\x7d", .plain)] else []) ++
      texts.map (·, { raw := .rawText }) ∧
    texts.flatMap (fun s => Script.lineFeeds s.toList) =
      Script.lineFeeds (o.adjust typed replacement).toList ++
        Script.lineFeeds o.endChar.toList := by
  refine ⟨o.adjust typed replacement :: o.endChar.toList.map String.singleton, ?_, ?_⟩
  · unfold HotstringOptions.sends
    simp only [hback, hraw, true_and]
    cases o.endChar <;> simp
  · cases o.endChar <;> simp [Script.lineFeeds]

/-- The sends of a literal replacement in turn. -/
lemma Brings.replace {e : Engine Desktop} {o : HotstringOptions} (typed replacement : String)
    (text : List Char) (h : e.Neutral) (hback : o.backspace = true) (hraw : o.raw = .rawText)
    (hfits : e.settings.sendMode = .event ∨ e.FitsAll (o.sends typed replacement)) :
    e.Brings (text ++ typed.toList)
      ((if typed.toList.length < UInt32.size then text else text ++ typed.toList) ++
        (Script.lineFeeds (o.adjust typed replacement).toList ++
          Script.lineFeeds o.endChar.toList))
      (e.replace typed replacement o) := by
  obtain ⟨texts, hsends, htexts⟩ := sends_eq hback hraw typed replacement
  have hmodes : ∀ x ∈ o.sends typed replacement, x.2.mode = none := by
    rw [hsends]
    intro x hx
    rcases List.mem_append.mp hx with hx | hx
    · split_ifs at hx
      · rw [List.mem_singleton.mp hx]
        rfl
      · cases hx
    · obtain ⟨text, -, rfl⟩ := List.mem_map.mp hx
      rfl
  have hfits : e.FitsAll (o.sends typed replacement) := hfits.elim (fitsAll_of_event · hmodes) id
  rw [hsends] at hfits
  unfold Engine.replace
  rw [hsends, ← htexts]
  by_cases hlen : 0 < typed.toList.length
  · rw [if_pos hlen] at hfits ⊢
    have herase := Brings.backspaces h text typed.toList hfits.1
    exact herase.cons (.literals herase.neutral hfits.2 _)
  · have hnil : typed.toList = [] := List.length_eq_zero_iff.mp (Nat.eq_zero_of_not_pos hlen)
    rw [if_neg hlen] at hfits ⊢
    rw [hnil, List.append_nil, ite_self]
    exact .literals h hfits _

/-- **A hotstring replacement edits the text exactly.** Whatever stands before it, what was typed is
gone, and the adjusted replacement and the end character are there with line feeds for line ends. -/
theorem replace_edits {e : Engine Desktop} {o : HotstringOptions} (typed replacement text : String)
    (h : e.Neutral) (hback : o.backspace = true) (hraw : o.raw = .rawText)
    (hcount : typed.toList.length < UInt32.size)
    (hfits : e.settings.sendMode = .event ∨ e.FitsAll (o.sends typed replacement)) :
    (e.replace typed replacement o).1 = .ok () ∧
      ∃ es : List EventRecord,
        (e.replace typed replacement o).2.platform.log.events =
          e.platform.log.events ++ es.toArray ∧
        Editor.edit (text ++ typed) es =
          text ++ String.ofList (Script.lineFeeds (o.adjust typed replacement).toList) ++
            String.ofList (Script.lineFeeds o.endChar.toList) := by
  have hbrings := Brings.replace typed replacement text.toList h hback hraw hfits
  rw [if_pos hcount] at hbrings
  obtain ⟨es, hlog, hes⟩ := hbrings.recorded
  refine ⟨hbrings.ok, es, hlog, ?_⟩
  rw [Editor.edit, String.toList_append, hes]
  simp [Editor.of, String.append_assoc]

/-- An abbreviation with a capital, CapsLock on, an AltGr layout, a line end and a character beyond
the first plane. -/
theorem replace_edits_of_capsLock :
    let e := Engine.new
      { Desktop.new with altgr := true, toggled := KeySet.assign ∅ .capsLock true } {}
    let o : HotstringOptions := { endChar := some ' ' }
    (e.replace "Btw" "by\r\n\x7b😀" o).1 = .ok () ∧
      ∃ es : List EventRecord,
        (e.replace "Btw" "by\r\n\x7b😀" o).2.platform.log.events =
          e.platform.log.events ++ es.toArray ∧
        Editor.edit "1. Btw" es = "1. By\n\x7b😀 " := by
  intro e o
  have hadjust : o.adjust "Btw" "by\r\n\x7b😀" = "By\r\n\x7b😀" := by decide +kernel
  have h := replace_edits (e := e) (o := o) "Btw" "by\r\n\x7b😀" "1. "
    ⟨rfl, KeySet.not_mem_empty, rfl, rfl⟩ rfl rfl (by decide) (.inl rfl)
  rw [hadjust] at h
  exact h

/-- What was typed stays where it is if it is longer than a press count. -/
lemma replace_appends {e : Engine Desktop} {o : HotstringOptions} (typed replacement text : String)
    (h : e.Neutral) (hback : o.backspace = true) (hraw : o.raw = .rawText)
    (hcount : UInt32.size ≤ typed.toList.length)
    (hfits : e.settings.sendMode = .event ∨ e.FitsAll (o.sends typed replacement)) :
    (e.replace typed replacement o).1 = .ok () ∧
      ∃ es : List EventRecord,
        (e.replace typed replacement o).2.platform.log.events =
          e.platform.log.events ++ es.toArray ∧
        Editor.edit (text ++ typed) es = text ++ typed ++
          String.ofList (Script.lineFeeds (o.adjust typed replacement).toList) ++
            String.ofList (Script.lineFeeds o.endChar.toList) := by
  have hbrings := Brings.replace typed replacement text.toList h hback hraw hfits
  rw [if_neg (Nat.not_lt.mpr hcount)] at hbrings
  obtain ⟨es, hlog, hes⟩ := hbrings.recorded
  refine ⟨hbrings.ok, es, hlog, ?_⟩
  rw [Editor.edit, String.toList_append, hes]
  simp [Editor.of, String.append_assoc]

/-- Of an abbreviation of as many characters as a press count cannot hold nothing is erased. -/
theorem replace_keeps_countless :
    let e := Engine.new Desktop.new {}
    let o : HotstringOptions := { replaceCase := .preserve }
    let typed := String.ofList (List.replicate UInt32.size 'a')
    e.Neutral ∧ e.settings.sendMode = .event ∧ (e.replace typed "" o).1 = .ok () ∧
      ¬∃ es : List EventRecord,
        (e.replace typed "" o).2.platform.log.events = e.platform.log.events ++ es.toArray ∧
        Editor.edit ("" ++ typed) es =
          "" ++ String.ofList (Script.lineFeeds (o.adjust typed "").toList) ++
            String.ofList (Script.lineFeeds o.endChar.toList) := by
  intro e o typed
  have hneutral : e.Neutral := ⟨rfl, KeySet.not_mem_empty, rfl, rfl⟩
  have hlen : typed.toList.length = UInt32.size := by
    rw [String.toList_ofList, List.length_replicate]
  obtain ⟨hok, es, hlog, hes⟩ :=
    replace_appends (o := o) typed "" "" hneutral rfl rfl hlen.ge (.inl rfl)
  refine ⟨hneutral, rfl, hok, ?_⟩
  rintro ⟨fs, hlog', hfs⟩
  obtain rfl : fs = es := by simpa using congrArg Array.toList (hlog'.symm.trans hlog)
  rw [hes] at hfs
  have hlong := congrArg (·.toList.length) hfs
  simp [hlen] at hlong

end Engine

end KeySynth
