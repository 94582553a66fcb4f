import KeySynth.Proofs.Desktop.Screen
import KeySynth.Proofs.Engine.Idle
import KeySynth.Proofs.Engine.Recording
import KeySynth.Proofs.Script.Quote

/-!
What is typed is what was quoted.

A screen goes along with the events of a run. Between two characters it shows the text so far, and
no modifier is down but perhaps a Shift key that the last character has left; each character brings
Shift to where it wants it and adds itself to the text.
-/

namespace KeySynth

open Modifier

/-- The left Shift key or nothing. -/
def shiftMask (shift : Bool) : Mask := if shift then {lshift} else ∅

/-- From Shift to Shift there is at most one step, whatever the layout. -/
lemma make_shiftMask (a b altgr : Bool) :
    (Plan.make (shiftMask b) (shiftMask a) altgr .both).steps =
      if a = b then [] else if b then [.press lshift] else [.release lshift] := by
  cases a <;> cases b <;> cases altgr <;> decide

lemma empty_union_shiftMask (shift : Bool) : ∅ ∪ shiftMask shift = shiftMask shift := by
  cases shift <;> decide

lemma chord?_usLayout (c : Char) : Desktop.chord? c Desktop.usLayout =
    (UsLayout.key? c).map fun t => ⟨t.vk, shiftMask t.shift⟩ :=
  if_neg fun h => absurd h.1 (by decide)

namespace Run

section

variable {P : Type} [Platform P]

/-- A screen that has read the events of the run, beginning at `d`. -/
def screen (d : Desktop) (r : Run P) : Screen := r.sent.foldl Screen.read (.blank d)

@[simp] lemma screen_emit (d : Desktop) (r : Run P) (e : EventRecord) :
    (r.emit e).screen d = (r.screen d).read (e.carried r.backend) := by
  simp [screen, List.foldl_append]

@[simp] lemma screen_pause (d : Desktop) (r : Run P) (p : Pause) :
    (r.pause p).screen d = r.screen d := by
  rw [screen, screen, sent_pause]

end

lemma dropAdded_shiftMask {P : Type} [Platform P] (r : Run P) (shift : Bool) :
    r.dropAdded (shiftMask shift) = r :=
  dropAdded_eq (by cases shift <;> decide) r

lemma chordMods_shiftMask {P : Type} (r : Run P) (shift : Bool) :
    r.chordMods (shiftMask shift) = shiftMask shift := by
  have hout : ¬({lctrl} ∪ {lalt} ⊆ shiftMask shift) := by cases shift <;> decide
  exact if_neg fun h => hout h.2

/-- An idle run that reads a text on the US layout. -/
structure Plain (r : Run Desktop) : Prop extends r.Idle where
  layout : r.layout = Desktop.usLayout
  raw : r.raw = .notRaw

lemma Plain.of_still {r s : Run Desktop} (h : r.Plain) (hs : s.still = r.still) : s.Plain where
  toIdle := h.toIdle.of_still hs
  layout := (congrArg (·.layout) hs).trans h.layout
  raw := (congrArg (·.raw) hs).trans h.raw

/-- A plain run whose events have typed a text, and how Shift and CapsLock stand. -/
structure Types (d : Desktop) (shift caps : Bool) (text : List Char) (r : Run Desktop) : Prop where
  plain : r.Plain
  logical : r.ledger.logical = shiftMask shift
  shows : (r.screen d).Shows shift caps text

namespace Types

variable {d : Desktop} {shift caps : Bool} {text : List Char} {r : Run Desktop}
  (h : Types d shift caps text r)
include h

lemma pause (p : Pause) : Types d shift caps text (r.pause p) where
  plain := h.plain.of_still (r.still_pause p)
  logical := (congrArg (·.logical) (r.ledger_pause p)).trans h.logical
  shows := by
    rw [screen_pause]
    exact h.shows

/-! ### Shift -/

/-- A Shift key that goes down or up types nothing. -/
lemma emitShift (up : Bool) : Types d (!up) caps text (r.emitModifier lshift up) where
  plain := h.plain.of_still (r.still_emitKey _ _ _ _)
  logical := by
    rw [logical_emitModifier, h.logical, drags_self (by simp)]
    cases up <;> cases shift <;> decide
  shows := by
    obtain ⟨k, hk, hu, hup, hv, hvk⟩ :=
      r.carried_keyEvent (sidedKey_modifier lshift) up r.tag r.backend
    rw [landing_modifier] at hv
    have hnone : UsLayout.char? k.vk shift caps = none := by
      rcases hvk (by decide) with h | h <;> rw [h] <;> cases shift <;> cases caps <;> decide
    have hs := h.shows.key hu (by rw [hv]; decide)
    have hl : lshift.key = .lshift := rfl
    rw [hv, hl, if_pos rfl, hup, hnone] at hs
    rw [emitModifier, emitKey_eq, screen_emit, hk]
    simpa using hs

/-- **Shift is brought to where it is wanted**, and nothing else happens. -/
lemma reconcile (wanted : Bool) :
    Types d wanted caps text (r.reconcile (shiftMask wanted) .both) := by
  have hsteps := make_shiftMask shift wanted r.altgr
  have hplayed : Types d wanted caps text
      (r.playSteps (Plan.make (shiftMask wanted) r.ledger.logical r.altgr .both).steps) := by
    rw [h.logical, hsteps]
    -- nothing to do, or one motion of the left Shift key
    cases shift <;> cases wanted
    · exact h
    · exact h.emitShift false
    · exact h.emitShift true
    · exact h
  unfold Run.reconcile
  dsimp only
  split_ifs with he hb
  · rw [Plan.isEmpty, List.isEmpty_iff] at he
    rwa [he] at hplayed
  · exact hplayed
  · exact hplayed.pause _

/-! ### Keys -/

/-- One motion of a key that types. -/
lemma emitTyping {vk : VirtualKey} (hk : vk.Typing) (up : Bool) (info : Tag) :
    Types d shift caps (text ++ if up then [] else (UsLayout.char? vk shift caps).toList)
      (r.emitKey vk 0 up info) where
  plain := h.plain.of_still (r.still_emitKey _ _ _ _)
  logical := by rw [logical_emitKey_of_none _ hk.ne_zero hk.ofKey?, h.logical]
  shows := by
    obtain ⟨k, hc, hu, hup, hkey, hvk⟩ := r.carried_side vk hk.ne_zero hk.ofKey? 0 up info
    have hout : vk ∉ [VirtualKey.capsLock, .rshift, .ralt] := by
      intro hm
      simp only [List.mem_cons, List.not_mem_nil, or_false] at hm
      rcases hm with rfl | rfl | rfl <;> exact absurd hk (by decide)
    have hl : vk ≠ .lshift := by
      rintro rfl
      exact absurd hk (by decide)
    have hs := h.shows.key hu (hkey ▸ hout)
    rw [hkey, if_neg hl, hup, hvk] at hs
    rw [emitKey_eq, screen_emit, hc]
    exact hs

/-- **A key types its character.** -/
lemma strike {vk : VirtualKey} (hk : vk.Typing) :
    Types d shift caps (text ++ (UsLayout.char? vk shift caps).toList)
      (r.strike .downUp vk 0) := by
  have hdown : Types d shift caps _ (r.emitKey vk 0 false r.tag).pressPause :=
    (h.emitTyping hk false r.tag).pause _
  have hup := hdown.emitTyping hk true r.tag
  rwa [if_neg Bool.false_ne_true, if_pos rfl, List.append_nil] at hup

/-- CapsLock is switched, and nothing is typed. -/
lemma tapCaps : Types d shift (!caps) text (r.tapLock .capsLock) where
  plain := h.plain.of_still (r.still_tapLock _)
  logical := (r.logical_tapLock rfl).trans h.logical
  shows := by
    obtain ⟨k, hc, hu, hup, hkey, hvk⟩ :=
      r.carried_side .capsLock (by decide) (by decide) 0 false r.tag
    obtain ⟨k', hc', hu', hup', hkey', -⟩ :=
      (r.emitKey .capsLock 0 false r.tag).pressPause.carried_side .capsLock (by decide) (by decide)
        0 true r.tag
    rw [tapLock, keyPause, screen_pause, Run.strike, emitKey_eq, screen_emit, hc', pressPause,
      screen_pause, emitKey_eq, screen_emit, hc]
    exact h.shows.capsTap ⟨hkey, hvk, hu, hup⟩ ⟨hkey', hu', hup'⟩

/-! ### Characters -/

/-- **A character without a key is typed as it is.** -/
lemma sendCodePoint (c : Char) :
    Types d false caps (text ++ [c]) (r.sendCodePoint c.toNat .downUp) := by
  unfold Run.sendCodePoint
  rw [if_pos (Text.isScalar_toNat c)]
  refine pause ?_ _
  have hready : Types d false caps text r.ready := by
    have hr := h.reconcile false
    rwa [ready, h.plain.wanted]
  obtain ⟨hs, hl, hsent⟩ := foldl_emitUnit (Text.utf16Units c.toNat) r.ready
  refine ⟨hready.plain.of_still hs, hl.trans hready.logical, ?_⟩
  rw [screen, hsent, List.foldl_append, Screen.foldl_packets]
  exact hready.shows.join c

/-- A key with Shift as it has to be. -/
lemma sendKey {vk : VirtualKey} (hk : vk.Typing) (wanted : Bool) :
    Types d wanted caps (text ++ (UsLayout.char? vk wanted caps).toList)
      (r.sendKey vk 0 (shiftMask wanted) .downUp 1) := by
  have hr : Types d wanted caps text (r.reconcile (shiftMask wanted ∪ r.kept) .both) := by
    rw [h.plain.kept, Mask.union_empty]
    exact h.reconcile wanted
  change Types d wanted caps _ (Run.dropAdded _ (shiftMask wanted))
  rw [dropAdded_shiftMask]
  exact (hr.strike hk).pause _

omit h in
/-- **A character is typed**, by its key or as it is. -/
lemma sendChar {c : Char} (hc : c ≠ '\r') (h : Types d shift false text r) :
    ∃ shift', Types d shift' false (text ++ [c]) (r.sendChar c .downUp) := by
  have hkey : ∀ vk wanted, vk.Typing → UsLayout.char? vk wanted false = some c →
      Types d wanted false (text ++ [c]) (r.sendKey vk 0 (shiftMask wanted) .downUp 1) := by
    intro vk wanted hk hchar
    have hs := h.sendKey hk wanted
    rwa [hchar] at hs
  unfold Run.sendChar
  split_ifs with henter htab hraw
  · subst henter
    rw [h.plain.keyMods]
    exact ⟨false, hkey .enter false (by decide) (by decide)⟩
  · subst htab
    rw [h.plain.keyMods]
    exact ⟨false, hkey .tab false (by decide) (by decide)⟩
  · rw [h.plain.raw] at hraw
    cases hraw
  · have hchord : Platform.chord? r.platform c r.layout =
        (UsLayout.key? c).map fun t => ⟨t.vk, shiftMask t.shift⟩ := by
      rw [h.plain.layout]
      exact chord?_usLayout c
    rw [hchord]
    cases ht : UsLayout.key? c with
    | none => exact ⟨false, h.sendCodePoint c⟩
    | some t =>
      refine ⟨t.shift, ?_⟩
      simp only [Option.map_some, chordMods_shiftMask, h.plain.keyMods, empty_union_shiftMask]
      exact hkey t.vk t.shift (UsLayout.typing_key? ht) (UsLayout.char?_key? ht hc)

omit h in
/-- A quoted character is typed whether in braces or not. -/
lemma act {c : Char} (hc : c ≠ '\r') (h : Types d shift false text r) :
    ∃ shift', Types d shift' false (text ++ [c]) (r.act (Script.quoted c)) := by
  obtain ⟨shift', hs⟩ := h.sendChar hc
  have hact : r.act (Script.quoted c) = (r.sendChar c .downUp).clearMods := by
    unfold Script.quoted
    split_ifs <;> rfl
  have hclear : (r.sendChar c .downUp).clearMods = r.sendChar c .downUp := by
    unfold clearMods
    rw [← hs.plain.keyMods]
  exact ⟨shift', by rwa [hact, hclear]⟩

omit h in
/-- **A quoted text is typed character by character.** -/
lemma interpret {cs : List Char} (hcs : '\r' ∉ cs) (h : Types d shift false text r) :
    ∃ shift', Types d shift' false (text ++ cs) (r.interpret (cs.map Script.quoted)) := by
  -- each character finds Shift as the one before it has left it
  induction cs generalizing shift text r with
  | nil => exact ⟨shift, by rwa [List.append_nil]⟩
  | cons c cs ih =>
    rw [List.mem_cons, not_or] at hcs
    obtain ⟨shift', hs⟩ := h.act (Ne.symm hcs.1)
    have hstep : r.step (Script.quoted c) = r.act (Script.quoted c) := by
      rw [step, h.plain.fault, Option.isSome_none, if_neg Bool.false_ne_true]
    rw [List.append_cons]
    exact ih hcs.2 (hstep ▸ hs)

/-- What is put back at the end adds nothing to the text. -/
lemma putBack (capsLock : Bool) :
    Types d false (caps ^^ capsLock) text (r.putBack capsLock) := by
  have hr : Types d false caps text (r.reconcile r.restored .both) := by
    rw [h.plain.restored]
    exact h.reconcile false
  cases capsLock
  · rwa [Bool.xor_false]
  · rw [Bool.xor_true]
    exact hr.tapCaps

end Types

end Run

namespace Engine

variable {e : Engine Desktop} {o : SendOptions}

lemma exclusions_quoted (cs : List Char) : Token.exclusions (cs.map Script.quoted) = none := by
  cases cs with
  | nil => rfl
  | cons c cs =>
    rw [List.map_cons, Script.quoted]
    split_ifs <;> rfl

/-- A screen sees a send begin with nothing typed. -/
lemma types_opened (haltgr : e.platform.altgr = false) (hdown : ∀ v, v ∉ e.platform.down)
    (hphysical : e.platform.physical = ∅) (hremapped : e.ledger.remapped = ∅)
    (hraw : o.raw = .notRaw) (ts : List Token) :
    (e.opened ts o).Types e.platform false (decide (.capsLock ∈ e.platform.toggled)) [] where
  plain :=
    { layout := by
        change (if e.platform.altgr then _ else _) = _
        rw [haltgr]
        rfl
      raw := hraw
      keyMods := rfl
      restored := restored_opened hdown hphysical hremapped ts
      fault := rfl }
  logical := heldDown_eq_empty hdown hphysical
  shows := Screen.shows_blank hdown

variable (haltgr : e.platform.altgr = false) (hdown : ∀ v, v ∉ e.platform.down)
  (hphysical : e.platform.physical = ∅) (hremapped : e.ledger.remapped = ∅)
  (hraw : o.raw = .notRaw)
  (hcaps : .capsLock ∈ e.platform.toggled → e.settings.storeCapsLock = true)
include haltgr hdown hphysical hremapped hraw hcaps

/-- While a quoted text is typed CapsLock is off. -/
lemma types_quoted {cs : List Char} (hcs : '\r' ∉ cs) :
    ∃ shift, (e.upTo (cs.map Script.quoted) o (cs.map Script.quoted)).Types e.platform shift false
      cs := by
  set ts := cs.map Script.quoted
  have hopen := types_opened haltgr hdown hphysical hremapped hraw ts
  have hstore : (e.opened ts o).storeCapsLock.Types e.platform false false [] := by
    have hblind : (e.opened ts o).blind = false :=
      congrArg Option.isSome (exclusions_quoted cs)
    have hstores : (e.opened ts o).storesCapsLock =
        decide (.capsLock ∈ e.platform.toggled) := by
      unfold Run.storesCapsLock
      rw [hblind]
      change (true && e.settings.storeCapsLock && decide (.capsLock ∈ e.platform.toggled)) = _
      by_cases hc : .capsLock ∈ e.platform.toggled
      · simp [hc, hcaps hc]
      · simp [hc]
    unfold Run.storeCapsLock
    rw [hstores]
    by_cases hc : .capsLock ∈ e.platform.toggled
    · simpa [hc] using hopen.tapCaps
    · simpa [hc] using hopen
  exact hstore.interpret hcs

/-- **A quoted text is typed exactly.** -/
theorem quote_typed (s : String) (hworks : e.platform.failing = false)
    (hfits : e.Fits (Token.ofText .notRaw (Script.quote s)) o) :
    (e.send (Script.quote s) o).1 = .ok () ∧
      ∃ es : List EventRecord,
        (e.send (Script.quote s) o).2.platform.log.events =
          e.platform.log.events ++ es.toArray ∧
        e.platform.reading es = String.ofList (Script.lineFeeds s.toList) := by
  rw [Script.ofText_quote] at hfits
  unfold send
  rw [hraw, Script.ofText_quote]
  have hcr := Script.cr_not_mem_lineFeeds s.toList
  set cs := Script.lineFeeds s.toList
  set ts := cs.map Script.quoted with hts
  obtain ⟨shift, htyped⟩ :=
    types_quoted haltgr hdown hphysical hremapped hraw hcaps hcr
  have hback := htyped.putBack (e.opened ts o).storesCapsLock
  have hfault := htyped.plain.fault
  dsimp only
  split_ifs with hemp
  -- an empty text ends before anything is looked at
  · have hnil : cs = [] := by simpa [hts] using hemp
    refine ⟨rfl, [], by simp, ?_⟩
    rw [hnil]
    rfl
  · refine ⟨?_, (e.typed ts o).sent, (recorded hworks hfits hfault).1, ?_⟩
    · rw [Run.outcome_eq_ok, sendRun_eq, Run.fault_leave]
      exact hfault
    · exact congrArg String.ofList hback.shows.text

omit haltgr hdown hphysical hremapped hraw hcaps in
/-- CapsLock is on when a text that is full of meaning is typed in a batch. -/
theorem quote_typed_of_capsLock :
    let e := Engine.new { Desktop.new with toggled := KeySet.assign ∅ .capsLock true }
      { sendMode := .input }
    (e.send (Script.quote "\x7bA+\r") .plain).1 = .ok () ∧
      ∃ es : List EventRecord,
        (e.send (Script.quote "\x7bA+\r") .plain).2.platform.log.events =
          e.platform.log.events ++ es.toArray ∧
        e.platform.reading es = "\x7bA+\n" := by
  have hfits : (Engine.new { Desktop.new with toggled := KeySet.assign ∅ .capsLock true }
      { sendMode := .input }).Fits (Token.ofText .notRaw (Script.quote "\x7bA+\r")) .plain := by
    rw [Script.ofText_quote]
    decide +kernel
  exact quote_typed rfl KeySet.not_mem_empty rfl rfl rfl (fun _ => rfl) "\x7bA+\r" rfl hfits

end Engine

end KeySynth
