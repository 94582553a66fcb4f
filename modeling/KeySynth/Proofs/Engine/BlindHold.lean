import KeySynth.Proofs.Engine.Partial
import KeySynth.Proofs.Engine.Quiet
import KeySynth.Proofs.Engine.Tape

/-!
Win and Alt keys that a text puts up by themselves.

A text that is not blind taps the mask key before it lets go of a Win or Alt key that is all that is
down, unless the ledger has the key down blindly. It has so from when a blind text puts the key down
until any text puts it up; that somebody else lets go of the key in between goes unnoticed.
-/

namespace KeySynth

open Modifier

/-- What a token says of a modifier. -/
def Token.says? : Token → Option (Modifier × Explicit)
  | .key (.named (.key vk sc)) action =>
    (ofKey? (if vk = 0 then sc.key else vk)).bind fun m => action.explicit?.map fun e => (m, e)
  | _ => none

lemma Token.exists_of_says? {t : Token} {m : Modifier} {e : Explicit} (h : t.says? = some (m, e)) :
    ∃ vk sc action, t = .key (.named (.key vk sc)) action ∧
      ofKey? (if vk = 0 then sc.key else vk) = some m ∧ action.explicit? = some e := by
  match t with
  | .key (.named (.key vk sc)) action =>
    obtain ⟨n, hn, he⟩ := Option.bind_eq_some_iff.mp h
    obtain ⟨e', he', heq⟩ := Option.map_eq_some_iff.mp he
    obtain ⟨rfl, rfl⟩ := Prod.mk.inj heq
    exact ⟨vk, sc, action, rfl, hn, he'⟩
  | .key (.named (.mouse b)) action | .key (.char c) action => cases h
  | .char _ | .asc _ | .modifier _ | .click _ | .raw | .text | .blind _ | .unicode _
  | .invalidUnicode _ | .unknown _ => cases h

/-- A stroke of the Control key that every hook is to ignore. -/
def EventRecord.maskStroke (up : Bool) : EventRecord :=
  .key ⟨.lcontrol, VirtualKey.lcontrol.scan, up, false, false, .ignore⟩

namespace Entry

variable (m : Modifier) (en : Entry)

/-- A blind text puts the key of `m` down. -/
def PutsDown : Prop :=
  ∃ t : Token, en.author = .token true t ∧ t.says? = some (m, .down) ∧ en.event.IsKey m false

/-- A text puts `m` up. -/
def PutsUp : Prop :=
  ∃ (blind : Bool) (t : Token), en.author = .token blind t ∧ t.says? = some (m, .up)

end Entry

/-- On a tape `m` has been put down blindly, and no text has put it up since. -/
def BlindDown (m : Modifier) (tape : List Entry) : Prop :=
  ∃ after en before, tape = after ++ en :: before ∧ en.PutsDown m ∧ ∀ x ∈ after, ¬x.PutsUp m

lemma BlindDown.append {m : Modifier} {tape news : List Entry} (h : BlindDown m tape)
    (hnews : ∀ x ∈ news, ¬x.PutsUp m) : BlindDown m (news ++ tape) := by
  obtain ⟨after, en, before, rfl, hdown, hafter⟩ := h
  refine ⟨news ++ after, en, before, by simp, hdown, fun x hx => ?_⟩
  exact (List.mem_append.mp hx).elim (hnews x) (hafter x)

namespace Desktop

variable (d : Desktop) (m : Modifier)

/-- Who the last event of a tape came from that took the key of `m` from up to down. -/
def raisedBy : List Entry → Option Author
  | [] => none
  | en :: tape =>
    if m.key ∈ (d.along (en :: tape)).down ∧ m.key ∉ (d.along tape).down then some en.author
    else raisedBy tape

/-- `m` is down blindly on the tape though the event of that did not take its key down, or the key
has been up since. -/
def Outdated (tape : List Entry) : Prop :=
  ∃ after en before, tape = after ++ en :: before ∧ en.PutsDown m ∧ (∀ x ∈ after, ¬x.PutsUp m) ∧
    (m.key ∈ (d.along before).down ∨
      ∃ u v, after = u ++ v ∧ m.key ∉ (d.along (v ++ en :: before)).down)

variable {d m} {en : Entry} {after before : List Entry}

lemma raisedBy_append (hup : m.key ∉ (d.along before).down)
    (hdown : ∀ u v, after = u ++ v → m.key ∈ (d.along (v ++ en :: before)).down) :
    d.raisedBy m (after ++ en :: before) = some en.author := by
  induction after with
  | nil => exact if_pos ⟨hdown [] [] rfl, hup⟩
  | cons x after ih =>
    have hbefore : m.key ∈ (d.along (after ++ en :: before)).down := hdown [x] after rfl
    rw [List.cons_append, raisedBy, if_neg fun h => h.2 hbefore]
    exact ih fun u v huv => hdown (x :: u) v (by rw [huv]; rfl)

/-- A blind word is what took the key down, unless it is outdated. -/
lemma raisedBy_of_blindDown {tape : List Entry} (h : BlindDown m tape) :
    (∃ t : Token, d.raisedBy m tape = some (.token true t) ∧ t.says? = some (m, .down)) ∨
      d.Outdated m tape := by
  obtain ⟨after, en, before, rfl, hen, hafter⟩ := h
  by_cases hold : m.key ∈ (d.along before).down ∨
      ∃ u v, after = u ++ v ∧ m.key ∉ (d.along (v ++ en :: before)).down
  · exact .inr ⟨after, en, before, rfl, hen, hafter, hold⟩
  · obtain ⟨t, hauthor, hword, -⟩ := hen
    refine .inl ⟨t, hauthor ▸ raisedBy_append (fun hb => hold (.inl hb)) fun u v huv => ?_, hword⟩
    by_contra hup
    exact hold (.inr ⟨u, v, huv, hup⟩)

end Desktop

/-- The ledger has no modifier down blindly that the tape has not. -/
def BlindOn (tape : List Entry) (l : Ledger) : Prop := ∀ m ∈ l.blindHeld, BlindDown m tape

namespace Run

section

variable {P : Type} [Platform P] (r : Run P) (m : Modifier)

/-- The run when the other modifiers are where they have to be while the key of `m` moves. -/
def turned : Run P := r.reconcile ((r.wanted \ {m}) ∪ (r.ledger.logical ∩ {m})) .both

/-- The same with the mask key tapped if it has to be. -/
def disguised (action : KeyAction) : Run P :=
  if action = .up ∧ (r.turned m).releaseIsBare m = true then (r.turned m).maskDown.maskUp
  else r.turned m

lemma journal_disguised (action : KeyAction) :
    r.journal <:+ (r.disguised m action).journal := by
  have hturned : Course (fun _ _ _ => True) r (r.turned m) := (Course.refl r).reconcile _ _
  unfold disguised
  split_ifs
  · exact (hturned.trans (.tap _)).journal_suffix
  · exact hturned.journal_suffix

lemma still_turned : (r.turned m).still = r.still :=
  ((Course.refl (K := fun _ _ _ => True) r).reconcile _ _).still

/-- The mask key is the Control key that an engine begins with. -/
lemma events_maskTap (h : r.maskKey = (.lcontrol, VirtualKey.lcontrol.scan)) :
    (r.maskDown.maskUp.journal.take 2).map (·.event) = [.maskStroke true, .maskStroke false] := by
  have hdown : r.maskDown.maskKey = (.lcontrol, VirtualKey.lcontrol.scan) :=
    (still_maskKey (r.still_emitKey _ _ _ _)).trans h
  have hkey : ∀ (s : Run P) up,
      s.keyEvent .lcontrol VirtualKey.lcontrol.scan up .ignore = .maskStroke up := fun s up => by
    have hvk : VirtualKey.lcontrol ≠ 0 := by decide
    have hsc : VirtualKey.lcontrol.scan ≠ 0 := by decide
    have hextended : VirtualKey.lcontrol.scan.isExtended = false := by decide
    simp only [keyEvent, if_neg hvk, if_neg hsc, hextended]
    rfl
  rw [maskUp, hdown, emitKey_eq, journal_emit, maskDown, h, emitKey_eq, journal_emit]
  simp [hkey]

omit [Platform P] in
variable {r m} in
lemma releaseIsBare_or (hm : m.OpensMenu r.altgr) (hblind : r.blind = false)
    (hheld : r.ledger.logical = {m}) : r.releaseIsBare m = true ∨ m ∈ r.ledger.blindHeld := by
  by_cases hb : m ∈ r.ledger.blindHeld
  · exact .inr hb
  · have hnone : r.ledger.logical \ {m} = ∅ := by
      rw [hheld]
      exact Mask.eq_empty_iff.mpr fun n hn => (Mask.mem_sdiff.mp hn).2 (Mask.mem_sdiff.mp hn).1
    have haltgr : (r.altgr && m == .ralt) = false := by
      simpa using fun ha => fun hr => hm.2 ⟨ha, hr⟩
    refine .inl ?_
    simp only [releaseIsBare, hm.1, haltgr, hblind, hb, hnone, decide_true, decide_false,
      Bool.not_false, Bool.and_self, beq_self_eq_true]

variable {r m} in
/-- Where a release opens a menu the mask key has been tapped, unless the modifier is down
blindly. -/
lemma masked_or_blindHeld (hmask : r.maskKey = (.lcontrol, VirtualKey.lcontrol.scan))
    (hm : m.OpensMenu r.altgr) (hblind : r.blind = false)
    (hheld : (r.disguised m .up).ledger.logical = {m}) :
    ((r.disguised m .up).journal.take 2).map (·.event) = [.maskStroke true, .maskStroke false] ∨
      m ∈ r.ledger.blindHeld := by
  have hstill := r.still_turned m
  by_cases hbare : (r.turned m).releaseIsBare m = true
  · have hd : r.disguised m .up = (r.turned m).maskDown.maskUp := if_pos ⟨rfl, hbare⟩
    rw [hd]
    exact .inl (events_maskTap _ ((still_maskKey hstill).trans hmask))
  · have hd : r.disguised m .up = r.turned m := if_neg fun h => hbare h.2
    have hsame : (r.turned m).ledger.blindHeld = r.ledger.blindHeld :=
      congrArg (·.ledger.blindHeld) hstill
    rw [hd] at hheld
    exact .inr (hsame ▸ (releaseIsBare_or (still_altgr hstill ▸ hm)
      ((still_blind hstill).trans hblind) hheld).resolve_left hbare)

variable {m} {vk : VirtualKey} {sc : ScanCode} (hm : ofKey? (r.resolved vk sc) = some m)
include hm

/-- A text's word on a modifier ends with the key itself. -/
lemma journal_act_word {action : KeyAction} (up : Bool)
    (haction : action = if up then .up else .down) :
    (r.act (.key (.named (.key vk sc)) action)).journal =
      ⟨(r.disguised m action).keyEvent (r.resolved vk sc) sc up (r.disguised m action).tag,
        (r.disguised m action).ledger.logical⟩ :: (r.disguised m action).journal := by
  change (r.sendTarget _ _).journal = _
  rw [r.sendTarget_modifier hm]
  cases up
  all_goals
    subst haction
    change (Run.keyPause _).journal = _
    rw [keyPause, journal_pause]
    exact journal_emit _ _

/-- The event of that is one of the modifier's key. -/
lemma isKey_resolved (s : Run P) (up : Bool) (info : Tag) :
    (s.keyEvent (r.resolved vk sc) sc up info).IsKey m up := by
  have h0 : r.resolved vk sc ≠ 0 := fun h0 => by
    rw [h0] at hm
    cases hm
  simp only [keyEvent, if_neg h0]
  exact ⟨hm, rfl⟩

end

variable {r : Run Desktop} {m : Modifier} {tape : List Entry}

lemma explicit?_eq (r : Run Desktop) (t : Token) : r.explicit? t = t.says? := by
  match t with
  | .key (.named (.key vk sc)) action => rfl
  | .key (.named (.mouse b)) action | .key (.char c) action => rfl
  | .char _ | .asc _ | .modifier _ | .click _ | .raw | .text | .blind _ | .unicode _
  | .invalidUnicode _ | .unknown _ => rfl

/-- A blind text's word on a modifier puts its key down. -/
lemma blindDown_act {t : Token} (hword : t.says? = some (m, .down)) (hblind : r.blind = true) :
    BlindDown m (r.entries (.token r.blind t) (r.act t) ++ tape) := by
  obtain ⟨vk, sc, action, rfl, hm, haction⟩ := Token.exists_of_says? hword
  have hdown : action = .down := by cases action <;> first | rfl | cases haction
  subst hdown
  have hm : ofKey? (r.resolved vk sc) = some m := hm
  have hj := r.journal_act_word hm false (rfl : KeyAction.down = _)
  obtain ⟨news, hnews⟩ := r.journal_disguised m .down
  rw [← hnews, ← List.cons_append] at hj
  rw [entries_eq hj, hblind, List.map_cons, List.cons_append]
  have hen := r.isKey_resolved hm (r.disguised m .down) false (r.disguised m .down).tag
  exact ⟨[], _, _, (List.nil_append _).symm, ⟨_, rfl, hword, hen⟩, by simp⟩

/-- A token keeps the ledger and the tape in line. -/
lemma blindOn_act (t : Token) (h : BlindOn tape r.ledger) :
    BlindOn (r.entries (.token r.blind t) (r.act t) ++ tape) (r.act t).ledger := by
  have hwords := r.words_act t
  rw [explicit?_eq] at hwords
  -- what was down blindly stays so, unless it has just been put up
  have hold : ∀ m ∈ r.ledger.blindHeld, t.says? ≠ some (m, .up) →
      BlindDown m (r.entries (.token r.blind t) (r.act t) ++ tape) := by
    refine fun m hm hword => (h m hm).append fun x hx => ?_
    rintro ⟨blind, t', hauthor, hup⟩
    obtain ⟨-, rfl⟩ := Author.token.inj ((author_of_mem_entries hx).symm.trans hauthor)
    exact hword hup
  intro m hm
  have hm : m ∈ (r.ledger.words.hear r.blind t.says?.toList).blindHeld := hwords ▸ hm
  cases hword : t.says? with
  | none =>
    rw [hword] at hm
    exact hold m hm (by simp [hword])
  | some x =>
    rw [hword] at hm
    rcases Words.of_mem_blindHeld_note hm with ⟨hblind, rfl⟩ | ⟨hm, hup⟩
    · exact blindDown_act hword hblind
    · exact hold m hm (by simpa [hword] using hup)

/-- What a send does before its first token and after its last has no word on modifiers. -/
lemma blindOn_frame {s : Run Desktop} (hs : s.still = r.still) (h : BlindOn tape r.ledger) :
    BlindOn (r.entries .frame s ++ tape) s.ledger := by
  have hheld : s.ledger.blindHeld = r.ledger.blindHeld := congrArg (·.ledger.blindHeld) hs
  intro m hm
  refine (h m (hheld ▸ hm)).append fun x hx => ?_
  rintro ⟨blind, t, hauthor, -⟩
  cases (author_of_mem_entries hx).symm.trans hauthor

end Run

namespace Engine

variable {d : Desktop} {tape : List Entry} {e : Engine Desktop} {ts us vs : List Token}
  {o : SendOptions} {t : Token} {m : Modifier}

lemma blindOn_upTo (h : BlindOn tape e.ledger) (ts : List Token) (o : SendOptions)
    (us : List Token) :
    BlindOn (e.tapeUpTo ts o us ++ tape) (e.upTo ts o us).ledger := by
  have hopened : BlindOn tape (e.opened ts o).ledger := h
  have hstored := Run.blindOn_frame (e.opened ts o).flows_storeCapsLock.still hopened
  rw [tapeUpTo, List.append_assoc]
  exact Run.told_induction (I := fun tape r => BlindOn tape r.ledger)
    (fun _ _ t hr => Run.blindOn_act t hr) hstored us

namespace Past

/-- The tape has a blind text's word for each modifier that is down blindly. -/
theorem blindOn (h : Past d tape e) : BlindOn tape e.ledger := by
  induction h with
  | new s => exact fun m hm => absurd hm (Mask.not_mem_empty m)
  | outside k _ ih =>
    intro m hm
    change BlindDown m ([⟨.outside, .key k⟩] ++ _)
    refine (ih m hm).append fun x hx => ?_
    rintro ⟨blind, t, hauthor, -⟩
    rw [List.mem_singleton.mp hx] at hauthor
    cases hauthor
  | @send tape e text o _ hevent ih =>
    unfold Engine.send taped
    dsimp only
    split_ifs
    · exact ih
    · have hup := blindOn_upTo ih (Token.ofText o.raw text) o (Token.ofText o.raw text)
      rw [Engine.tape, List.append_assoc, sendRun_of_event hevent]
      exact Run.blindOn_frame (Run.flows_putBack _ _).still hup

/-- Nothing changes the mask key. -/
lemma maskKey (h : Past d tape e) : e.maskKey = (.lcontrol, VirtualKey.lcontrol.scan) := by
  induction h with
  | new s => rfl
  | outside k _ ih => exact ih
  | @send tape e text o _ _ ih =>
    unfold Engine.send
    dsimp only
    split_ifs
    · exact ih
    · exact (Run.fixed_maskKey (e.fixed_sendRun _ o)).trans ih

end Past

/-- **Only what was put down blindly is let go of in the open.** When a text that is not blind puts
up a Win or Alt key and that is all that is down, the mask key is tapped right before, unless a
blind text's word was what last took the key down, or such a word is outdated: no text has put the
key up since, but it has been up. The tape goes back to when the engine was made, through sends
event by event and events of others in between, and leads to the keys that are down. -/
theorem masked_or_blind (hpast : Past d tape e) (hd : d.failing = false) {text : String}
    (hevent : e.backendFor o = .event) (htext : Token.ofText o.raw text = us ++ t :: vs)
    (hblind : Token.exclusions (Token.ofText o.raw text) = none)
    (hword : t.says? = some (m, .up))
    (hm : m.OpensMenu (e.ledger.hasAltGr (Platform.focusedLayout e.platform o.target)
      (Platform.hasAltGr e.platform)).1)
    (hfault : (e.upTo (Token.ofText o.raw text) o us).fault = none) :
    let r := e.upTo (Token.ofText o.raw text) o us
    let past := e.tapeUpTo (Token.ofText o.raw text) o us ++ tape
    r.platform.keys = (d.along past).keys ∧
      ∃ em earlier, em.event.IsKey m true ∧
        em :: earlier <:+ (e.sendRun (Token.ofText o.raw text) o).journal ∧
        (r.act t).journal = em :: earlier ∧
        (em.held = {m} →
          (earlier.take 2).map (·.event) = [.maskStroke true, .maskStroke false] ∨
          (∃ t' : Token, d.raisedBy m past = some (.token true t') ∧
            t'.says? = some (m, .down)) ∨
          d.Outdated m past) := by
  intro r past
  obtain ⟨hkeys, hworks⟩ := hpast.keys hd
  have hpresent : r.platform.keys = (d.along past).keys := by
    rw [Desktop.along_append]
    exact (keys_upTo hevent hworks).trans (Desktop.keys_along_congr hkeys _)
  have hfixed := e.fixed_upTo (Token.ofText o.raw text) o us
  obtain ⟨vk, sc, action, rfl, hkey, haction⟩ := Token.exists_of_says? hword
  obtain rfl : action = .up := by cases action <;> first | rfl | cases haction
  have hkey : ofKey? (r.resolved vk sc) = some m := hkey
  have hj := r.journal_act_word hkey true rfl
  refine ⟨hpresent, _, _, r.isKey_resolved hkey _ true _,
    hj ▸ journal_sendRun htext hfault, hj, fun hheld => ?_⟩
  have hmask : r.maskKey = (.lcontrol, VirtualKey.lcontrol.scan) :=
    (Run.fixed_maskKey hfixed).trans hpast.maskKey
  have hopen : r.blind = false := (Run.fixed_blind hfixed).trans (congrArg Option.isSome hblind)
  have haltgr : r.altgr = _ := Run.fixed_altgr hfixed
  refine (Run.masked_or_blindHeld hmask (haltgr ▸ hm) hopen hheld).imp_right fun hdown => ?_
  exact Desktop.raisedBy_of_blindDown
    (blindOn_upTo hpast.blindOn (Token.ofText o.raw text) o us m hdown)

/-- A Win key that a text has put up again after a blind one and somebody else puts down. -/
theorem masked_or_blind_of_answered :
    let e₀ := Engine.new Desktop.new {}
    let e₁ := (e₀.send "{Blind}{LWin down}" .plain).2
    let e₂ := (e₁.send "{LWin up}" .plain).2
    let press : KeyRecord := ⟨.lwin, VirtualKey.lwin.scan, false, true, false, 0⟩
    let e := e₂.nudge press
    let tape : List Entry := ⟨.outside, .key press⟩ ::
      (e₁.taped "{LWin up}" .plain ++ (e₀.taped "{Blind}{LWin down}" .plain ++ []))
    let ts := Token.ofText .notRaw "{LWin up}"
    let past := e.tapeUpTo ts .plain [] ++ tape
    e.Past Desktop.new tape ∧
      (e.upTo ts .plain []).platform.keys = (Desktop.new.along past).keys ∧
      ∃ em earlier, em.event.IsKey lwin true ∧ em :: earlier <:+ (e.sendRun ts .plain).journal ∧
        em.held = {lwin} ∧
        ((earlier.take 2).map (·.event) = [.maskStroke true, .maskStroke false] ∨
          (∃ t' : Token, Desktop.new.raisedBy lwin past = some (.token true t') ∧
            t'.says? = some (lwin, .down)) ∨
          Desktop.new.Outdated lwin past) := by
  intro e₀ e₁ e₂ press e tape ts past
  have hpast : e.Past Desktop.new tape :=
    (((Past.new {}).send "{Blind}{LWin down}" (by decide)).send "{LWin up}"
      (by decide +kernel)).outside press
  have hts : ts = [] ++ .key (.named (.key .lwin VirtualKey.lwin.scan)) .up :: [] := by
    decide +kernel
  obtain ⟨hkeys, em, earlier, hup, hsent, hj, hmask⟩ := masked_or_blind (o := .plain) (m := lwin)
    hpast rfl (by decide +kernel) hts (by decide +kernel) (by decide)
    ⟨by decide, by decide +kernel⟩ (by decide +kernel)
  have hheld : em.held = {lwin} := by
    have hhead : ((e.upTo ts .plain []).act (.key (.named (.key .lwin VirtualKey.lwin.scan))
        .up)).journal.head?.map (·.held) = some {lwin} := by decide +kernel
    exact Option.some_inj.mp ((congrArg (·.head?.map (·.held)) hj).symm.trans hhead)
  exact ⟨hpast, hkeys, em, earlier, hup, hsent, hheld, hmask hheld⟩

/-- A Win key that somebody else has put up and down again after a blind text put it down is let go
of in the open all the same. -/
theorem unmasked_after_outside :
    ¬∀ (d : Desktop) (tape : List Entry) (e : Engine Desktop) (o : SendOptions) (us vs : List Token)
      (t : Token) (m : Modifier) (text : String), e.Past d tape → d.failing = false →
      e.backendFor o = .event → Token.ofText o.raw text = us ++ t :: vs →
      Token.exclusions (Token.ofText o.raw text) = none → t.says? = some (m, .up) →
      m.OpensMenu (e.ledger.hasAltGr (Platform.focusedLayout e.platform o.target)
        (Platform.hasAltGr e.platform)).1 →
      (e.upTo (Token.ofText o.raw text) o us).fault = none →
      ∀ em earlier, ((e.upTo (Token.ofText o.raw text) o us).act t).journal = em :: earlier →
        em.held = {m} →
        (earlier.take 2).map (·.event) = [.maskStroke true, .maskStroke false] ∨
          ∃ t' : Token, d.raisedBy m (e.tapeUpTo (Token.ofText o.raw text) o us ++ tape) =
            some (.token true t') ∧ t'.says? = some (m, .down) := by
  intro h
  let strike (up : Bool) : KeyRecord := ⟨.lwin, VirtualKey.lwin.scan, up, true, false, 0⟩
  let e₀ := Engine.new Desktop.new {}
  let e₁ := (e₀.send "{Blind}{LWin down}" .plain).2.nudge (strike true)
  let e := (e₁.send "a" .plain).2.nudge (strike false)
  let tape : List Entry := ⟨.outside, .key (strike false)⟩ :: (e₁.taped "a" .plain ++
    ⟨.outside, .key (strike true)⟩ :: (e₀.taped "{Blind}{LWin down}" .plain ++ []))
  have hpast : e.Past Desktop.new tape :=
    ((((Past.new {}).send "{Blind}{LWin down}" (by decide)).outside (strike true)).send "a"
      (by decide +kernel)).outside (strike false)
  have hts : Token.ofText .notRaw "{LWin up}" =
      [] ++ .key (.named (.key .lwin VirtualKey.lwin.scan)) .up :: [] := by decide +kernel
  have hraised : Desktop.new.raisedBy lwin (e.tapeUpTo (Token.ofText .notRaw "{LWin up}") .plain []
      ++ tape) = some .outside := by decide +kernel
  have hclaim := h _ _ _ .plain [] [] _ lwin "{LWin up}" hpast rfl (by decide +kernel) hts
    (by decide +kernel) (by decide) ⟨by decide, by decide +kernel⟩ (by decide +kernel)
    ⟨.key ⟨.lwin, VirtualKey.lwin.scan, true, true, false, .ofLevel 0⟩, {lwin}⟩ []
    (by decide +kernel) rfl
  rcases hclaim with hmasked | ⟨t', hblind, -⟩
  · cases hmasked
  · cases hraised.symm.trans hblind

end Engine

end KeySynth
