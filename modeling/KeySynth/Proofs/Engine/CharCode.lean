import KeySynth.Proofs.Engine.Held
import KeySynth.Proofs.Engine.NumLock
import KeySynth.Proofs.Engine.Recording
import KeySynth.Proofs.Engine.Spoil

/-!
Character codes on the numpad.

A character code is typed with the left Alt key down, with any mask key that is not NumLock itself.
NumLock is on while it is typed where the platform is up to date with the text. While a batch is
open it is not: there NumLock is on just if the text has pressed it an even number of times so far.
-/

namespace KeySynth

open Modifier

namespace Run

section

variable {P : Type} [Platform P] (r : Run P)

/-- The run of a character code when the digits `ds` of it have been typed. -/
def dialed (ds : List Char) : Run P :=
  let r := if !Platform.isToggled r.platform .numLock then r.tapLock .numLock else r
  ds.foldl typeDigit (r.reconcile (r.wanted ∪ {lalt}) .upOnly)

/-- What is left to do after the last digit. -/
lemma sendAsc_eq (digits : String) : r.sendAsc digits =
    let q := r.dialed digits.toList
    let q := q.reconcile (q.ledger.logical \ ({lalt} \ q.wanted)) .none
    if !Platform.isToggled r.platform .numLock then q.tapLock .numLock else q := rfl

lemma dialed_append (ds cs : List Char) : r.dialed (ds ++ cs) = cs.foldl typeDigit (r.dialed ds) :=
  List.foldl_append

lemma course_dialed (ds : List Char) : Course (fun _ _ _ => True) r (r.dialed ds) := by
  have hcode : ∀ s : Run P, Course (fun _ _ _ => True) s
      (ds.foldl typeDigit (s.reconcile (s.wanted ∪ {lalt}) .upOnly)) := fun s =>
    ((Course.refl s).reconcile _ _).trans (.foldl fun s c _ => (Course.stroke s trivial).keyPause)
  unfold dialed
  dsimp only
  split_ifs
  · exact (Course.tapLock r trivial (.refl r)).trans (hcode _)
  · exact hcode r

/-- The event of a digit's key going down. -/
def digitDown (c : Char) : EventRecord :=
  r.keyEvent (VirtualKey.numpad0 + (c.toNat - '0'.toNat).toUInt8) 0 false r.tag

variable {r}

lemma logical_typeDigit {c : Char} (hc : c.isDigit = true) :
    (r.typeDigit c).ledger.logical = r.ledger.logical := by
  have hkey := VirtualKey.Typing.of_digit hc
  have hone : ∀ (s : Run P) up info,
      (s.emitKey (VirtualKey.numpad0 + (c.toNat - '0'.toNat).toUInt8) 0 up info).ledger.logical =
        s.ledger.logical := fun s up info =>
    s.logical_emitKey_of_none hkey.ne_zero hkey.ofKey? _ _ _
  rw [typeDigit, keyPause, ledger_pause, strike, hone, pressPause, ledger_pause, hone]

/-- The left Alt key is held for all digits. -/
lemma lalt_mem_dialed (h0 : r.maskKey.1 ≠ 0) {ds : List Char}
    (hds : ∀ c ∈ ds, c.isDigit = true) : lalt ∈ (r.dialed ds).ledger.logical := by
  have hheld : ∀ s : Run P, s.maskKey.1 ≠ 0 →
      lalt ∈ (s.reconcile (s.wanted ∪ {lalt}) .upOnly).ledger.logical := fun s hs => by
    rw [mem_logical_reconcile hs]
    -- nothing that is pressed is disguised
    exact ⟨by simp, fun hspoils => Bool.false_ne_true hspoils.1⟩
  unfold dialed
  dsimp only
  refine List.foldlRecOn (motive := fun s : Run P => lalt ∈ s.ledger.logical) _ _ (hheld _ ?_)
    fun s hs c hc => by rwa [logical_typeDigit (hds c hc)]
  split_ifs
  · rwa [still_maskKey (r.still_tapLock _)]
  · exact h0

/-- Each digit follows upon the one before it. -/
lemma journal_digit {digits : String} {ds cs : List Char} {c : Char}
    (h : digits.toList = ds ++ c :: cs) :
    ⟨(r.dialed ds).digitDown c, (r.dialed ds).ledger.logical⟩ :: (r.dialed ds).journal <:+
      (r.act (.asc digits)).journal := by
  have hdown : ⟨(r.dialed ds).digitDown c, (r.dialed ds).ledger.logical⟩ ::
      (r.dialed ds).journal <:+ ((r.dialed ds).typeDigit c).journal := by
    rw [typeDigit, keyPause, journal_pause]
    exact journal_strike .downUp _ 0
  have hrest : Course (fun _ _ _ => True) ((r.dialed ds).typeDigit c) (r.dialed digits.toList) := by
    rw [h, dialed_append]
    exact .foldl fun s c _ => (Course.stroke s trivial).keyPause
  have hend : Course (fun _ _ _ => True) (r.dialed digits.toList) (r.sendAsc digits) := by
    have hreleased : ∀ m w, Course (fun _ _ _ => True) (r.dialed digits.toList)
        ((r.dialed digits.toList).reconcile m w) := fun m w => (Course.refl _).reconcile m w
    rw [sendAsc_eq]
    dsimp only
    split_ifs
    · exact .tapLock _ trivial (hreleased _ _)
    · exact hreleased _ _
  exact hdown.trans (hrest.trans hend).journal_suffix

end

/-- What a run has sent begins with what it had sent before. -/
lemma sent_of_journal {P : Type} {r s : Run P} {e : EventRecord} {held : Mask}
    (hb : s.backend = r.backend) (h : ⟨e, held⟩ :: r.journal <:+ s.journal) :
    ∃ after, s.sent = r.sent ++ e.carried r.backend :: after := by
  obtain ⟨news, hnews⟩ := h
  refine ⟨news.reverse.map (·.event.carried r.backend), ?_⟩
  rw [sent, sent, ← hnews, hb]
  simp

namespace NumLocked

variable {d : Desktop} {n : Nat} {r : Run Desktop}

/-- NumLock is tapped once more if the platform has it off. -/
lemma dialed (hm : OffNumLock r.maskKey.1 r.maskKey.2) (h : NumLocked d n r) {ds : List Char}
    (hds : ∀ c ∈ ds, c.isDigit = true) :
    NumLocked d (if .numLock ∈ r.platform.toggled then n else n + 1) (r.dialed ds) := by
  have hcode : ∀ {k} {s : Run Desktop}, OffNumLock s.maskKey.1 s.maskKey.2 → NumLocked d k s →
      NumLocked d k (ds.foldl typeDigit (s.reconcile (s.wanted ∪ {lalt}) .upOnly)) :=
    fun hs hk => hk.course (((Course.refl _).reconcile _ _).trans (.foldl fun q c hc =>
      (Course.stroke q ((VirtualKey.Typing.of_digit (hds c hc)).offKey rfl)).keyPause)) hs
  have htoggled : Platform.isToggled r.platform .numLock =
      decide (.numLock ∈ r.platform.toggled) := rfl
  unfold Run.dialed
  simp only [htoggled]
  by_cases ht : .numLock ∈ r.platform.toggled
  · rw [if_pos ht, if_neg (by simp [ht])]
    exact hcode hm h
  · rw [if_neg ht, if_pos (by simp [ht])]
    exact hcode (still_maskKey (r.still_tapLock _) ▸ hm) ((h.press rfl).pause _)

/-- For the digits NumLock is on just if the platform is right about it. -/
lemma toggled_dialed (hm : OffNumLock r.maskKey.1 r.maskKey.2) (h : NumLocked d n r)
    {ds : List Char} (hds : ∀ c ∈ ds, c.isDigit = true) :
    .numLock ∈ ((r.dialed ds).desk d).toggled ↔
      (.numLock ∈ r.platform.toggled ↔ .numLock ∈ (r.desk d).toggled) := by
  rw [(h.dialed hm hds).lock.toggled, h.lock.toggled, apply_ite Even, Nat.even_add_one]
  split_ifs with ht <;> by_cases hn : Even n <;> simp [ht, hn]

end NumLocked

end Run

namespace Engine

variable {e : Engine Desktop} {ts us vs : List Token} {o : SendOptions}

/-- Event by event the platform is where the run is; while a batch is open it is where it was. -/
lemma toggled_upTo (hworks : e.platform.failing = false) (ts us : List Token) (o : SendOptions) :
    (e.backendFor o = .event →
      (e.upTo ts o us).platform.toggled = ((e.upTo ts o us).desk e.platform).toggled) ∧
    (e.backendFor o ≠ .event → (e.upTo ts o us).platform = e.platform) := by
  obtain ⟨es, hes⟩ := e.emits_upTo ts o us
  refine ⟨fun hevent => ?_, fun hbatch => (batch_of_emits (Backend.isBatch_iff.mpr hbatch) hes).2⟩
  obtain ⟨-, -, -, hkeys⟩ := hes.log (batch_opened_of_event hevent ts) hworks
  have hsent : (e.upTo ts o us).sent = es.filter (!·.isDelay) := hes.sent
  rw [Desktop.keys_toggled hkeys, Run.desk, hsent]
  exact (Desktop.keys_toggled (Desktop.keys_foldl_filter _ es)).symm

/-- NumLock has gone down as often as the text has pressed it. -/
lemma numLocked_upTo (hdown : ∀ v, v ∉ e.platform.down)
    (hmask : OffNumLock e.maskKey.1 e.maskKey.2) (hsided : ∀ t ∈ us, t.Sided)
    (hpress : ∀ t ∈ us, t.PressesNumLock)
    (hdigits : ∀ digits, .asc digits ∈ us → ∀ c ∈ digits.toList, c.isDigit = true)
    (hfault : (e.upTo ts o us).fault = none) :
    Run.NumLocked e.platform (Token.allNumLocks us) (e.upTo ts o us) := by
  have hopened : Run.NumLocked e.platform 0 (e.opened ts o) := by
    have hsent : (e.opened ts o).sent = [] := rfl
    refine ⟨⟨rfl, hdown _, by simp [Run.desk, hsent]⟩, fun hl => ?_⟩
    have hheld : lalt ∈ heldDown e.platform := hl
    exact mem_heldDown.mp hheld
  have hstored : (e.opened ts o).storeCapsLock.maskKey = e.maskKey :=
    Run.still_maskKey (Run.flows_storeCapsLock (e.opened ts o)).still
  have hr := (hopened.course (.storeCapsLock _ (offKey_zero rfl (by decide))) hmask).interpret
    (hstored ▸ hmask) hsided hpress hdigits hfault
  rwa [Nat.zero_add] at hr

/-- A digit of a character code is recorded after all that has been sent before it. -/
lemma recorded_digit {text : String} {digits : String} {ds cs : List Char} {c : Char}
    (hworks : e.platform.failing = false)
    (htext : Token.ofText o.raw text = us ++ .asc digits :: vs)
    (hdigits : digits.toList = ds ++ c :: cs) (hc : c.isDigit = true)
    (hfault : (e.upTo (Token.ofText o.raw text) o us).fault = none) :
    let q := (e.upTo (Token.ofText o.raw text) o us).dialed ds
    (e.Dropped text o ∧ (e.send text o).2.platform = e.platform) ∨
      ∃ (k : KeyRecord) (after : List EventRecord),
        k.vk = VirtualKey.numpad0 + (c.toNat - '0'.toNat).toUInt8 ∧ k.unicode = false ∧
        k.up = false ∧ (e.send text o).2.platform.log.events =
          e.platform.log.events ++ (q.sent ++ .key k :: after).toArray := by
  set ts := Token.ofText o.raw text with hts
  set r := e.upTo ts o us
  have hne : ts ≠ [] := by simp [htext]
  refine (recorded_or_dropped hworks hne).imp_right fun hlog => ?_
  have hj := (Run.journal_digit (r := r) hdigits).trans ((journal_upTo htext hfault).trans
    (Run.flows_putBack (e.upTo ts o ts) (e.opened ts o).storesCapsLock).journal_suffix)
  have hb : (e.typed ts o).backend = (r.dialed ds).backend := by
    rw [Run.still_backend (r.course_dialed ds).still]
    exact (Run.fixed_backend fixed_typed).trans (Run.fixed_backend (e.fixed_upTo ts o us)).symm
  obtain ⟨after, hafter⟩ := Run.sent_of_journal hb hj
  have hkey := VirtualKey.Typing.of_digit hc
  obtain ⟨k, hk, hu, hup, -, hvk⟩ := (r.dialed ds).carried_keyEvent
    (sidedKey_zero (VirtualKey.numpad0 + (c.toNat - '0'.toNat).toUInt8)) false (r.dialed ds).tag
    (r.dialed ds).backend
  refine ⟨k, after, ?_, hu, hup, ?_⟩
  · have hv := hvk hkey.ne_zero
    rwa [VirtualKey.ofKey?_neutral hkey.ofKey?, or_self] at hv
  · rw [hlog, hafter, ← hk]
    rfl

/-- **How a character code is typed.** Of a text that does not keep NumLock down, a desktop takes
each digit of each character code, unless the batch is dropped, with the left Alt key down; and with
NumLock on if the digit is sent by itself, but in a batch just if the text in front of the code
presses NumLock an even number of times. -/
theorem digit_of_asc {text : String} {digits : String} {ds cs : List Char} {c : Char}
    (hworks : e.platform.failing = false) (hdown : ∀ v, v ∉ e.platform.down)
    (h0 : e.maskKey.1 ≠ 0) (hmask : OffNumLock e.maskKey.1 e.maskKey.2)
    (htext : Token.ofText o.raw text = us ++ .asc digits :: vs) (hsided : ∀ t ∈ us, t.Sided)
    (hpress : ∀ t ∈ us, t.PressesNumLock) (hdigits : digits.toList = ds ++ c :: cs)
    (hfault : (e.upTo (Token.ofText o.raw text) o us).fault = none) :
    let q := (e.upTo (Token.ofText o.raw text) o us).dialed ds
    let d := q.sent.foldl Desktop.apply e.platform
    ((e.Dropped text o ∧ (e.send text o).2.platform = e.platform) ∨
      ∃ (k : KeyRecord) (after : List EventRecord),
        k.vk = VirtualKey.numpad0 + (c.toNat - '0'.toNat).toUInt8 ∧ k.unicode = false ∧
        k.up = false ∧ (e.send text o).2.platform.log.events =
          e.platform.log.events ++ (q.sent ++ .key k :: after).toArray) ∧
    d.isDown .lalt = true ∧
    (.numLock ∈ d.toggled ↔ e.backendFor o = .event ∨ Even (Token.allNumLocks us)) := by
  set ts := Token.ofText o.raw text with hts
  set r := e.upTo ts o us
  have hall : ∀ digits, .asc digits ∈ ts → ∀ c ∈ digits.toList, c.isDigit = true :=
    fun _ h => (Token.digits_of_mem_ofText h).2
  have hcode := hall digits (by simp [htext])
  rw [hdigits] at hcode
  have hds : ∀ c ∈ ds, c.isDigit = true := fun c hc => hcode c (by simp [hc])
  have hm : r.maskKey = e.maskKey := Run.fixed_maskKey (e.fixed_upTo ts o us)
  have hr : Run.NumLocked e.platform (Token.allNumLocks us) r :=
    numLocked_upTo hdown hmask hsided hpress (fun digits h => hall digits (by simp [htext, h]))
      hfault
  have hlalt : lalt ∈ (r.dialed ds).ledger.logical := Run.lalt_mem_dialed (hm ▸ h0) hds
  refine ⟨recorded_digit hworks htext hdigits (hcode c (by simp)) hfault,
    (hr.dialed (hm ▸ hmask) hds).alt hlalt, (hr.toggled_dialed (hm ▸ hmask) hds).trans ?_⟩
  obtain ⟨hevent, hbatch⟩ := toggled_upTo hworks ts us o
  rcases eq_or_ne (e.backendFor o) .event with he | he
  · have hp : r.platform.toggled = (r.desk e.platform).toggled := hevent he
    simp [he, hp]
  · have hp : r.platform = e.platform := hbatch he
    rw [hr.lock.toggled, hp]
    by_cases hn : Even (Token.allNumLocks us) <;> simp [he, hn]

/-- Pressed twice in a batch NumLock is as it was. -/
theorem digit_of_asc_of_two :
    let e := Engine.new { Desktop.new with toggled := KeySet.assign ∅ .numLock true }
      { sendMode := .input }
    let us := [Token.key (.named (.key .numLock VirtualKey.numLock.scan)) (.press 2)]
    let q := (e.upTo (Token.ofText .notRaw "{NumLock 2}{ASC 65}") .plain us).dialed ['6']
    let d := q.sent.foldl Desktop.apply e.platform
    (∃ (k : KeyRecord) (after : List EventRecord), k.vk = 0x65 ∧ k.unicode = false ∧ k.up = false ∧
      (e.send "{NumLock 2}{ASC 65}" .plain).2.platform.log.events =
        e.platform.log.events ++ (q.sent ++ .key k :: after).toArray) ∧
    d.isDown .lalt = true ∧ .numLock ∈ d.toggled := by
  intro e us
  have htext : Token.ofText .notRaw "{NumLock 2}{ASC 65}" = us ++ .asc "65" :: [] := by
    decide +kernel
  have hmask : OffNumLock e.maskKey.1 e.maskKey.2 := offNumLock_modifier lctrl
  have hsided : ∀ t ∈ us, t.Sided := by
    intro t ht
    obtain rfl := List.mem_singleton.mp ht
    exact fun m hm => nomatch hm
  have hpress : ∀ t ∈ us, t.PressesNumLock := by
    intro t ht
    obtain rfl := List.mem_singleton.mp ht
    exact fun _ => ⟨2, rfl⟩
  have hdigits : "65".toList = ['6'] ++ '5' :: [] := rfl
  obtain ⟨hlog, hlalt, hnum⟩ := digit_of_asc (e := e) (o := .plain) rfl KeySet.not_mem_empty
    (by decide) hmask htext hsided hpress hdigits (by decide +kernel)
  refine ⟨hlog.resolve_left fun h => ?_, hlalt, hnum.mpr (.inr (by decide))⟩
  exact absurd (congrArg (·.log.events.size) h.2) (by decide +kernel)

/-- Pressed once in a batch it is off while the code is typed. -/
theorem asc_without_numLock :
    ¬∀ (e : Engine Desktop) (text : String) (o : SendOptions), e.platform.failing = false →
      (∀ v, v ∉ e.platform.down) → (∀ t ∈ Token.ofText o.raw text, t.PressesNumLock) →
      ∀ (us vs : List Token) (digits : String) (ds cs : List Char) (c : Char),
        Token.ofText o.raw text = us ++ .asc digits :: vs → digits.toList = ds ++ c :: cs →
        let q := (e.upTo (Token.ofText o.raw text) o us).dialed ds
        (∃ after, (e.send text o).2.platform.log.events = e.platform.log.events ++
          (q.sent ++ (q.digitDown c).carried q.backend :: after).toArray) →
        let d := q.sent.foldl Desktop.apply e.platform
        .numLock ∈ d.toggled ∧ d.isDown .lalt = true := by
  intro h
  let e := Engine.new { Desktop.new with toggled := KeySet.assign ∅ .numLock true }
    { sendMode := .input }
  let us := [Token.key (.named (.key .numLock VirtualKey.numLock.scan)) (.press 1)]
  have htext : Token.ofText .notRaw "{NumLock}{ASC 1}" = us ++ .asc "1" :: [] := by
    decide +kernel
  have hpress : ∀ t ∈ Token.ofText .notRaw "{NumLock}{ASC 1}", t.PressesNumLock := by
    rw [htext]
    intro t ht
    rcases List.mem_cons.mp ht with rfl | ht
    · exact fun _ => ⟨1, rfl⟩
    · obtain rfl := List.mem_singleton.mp ht
      trivial
  have hd := h e "{NumLock}{ASC 1}" .plain rfl KeySet.not_mem_empty
    hpress us [] "1" [] [] '1' htext rfl
    ⟨(e.send "{NumLock}{ASC 1}" .plain).2.platform.log.events.toList.drop 4, by decide +kernel⟩
  exact absurd hd.1 (by decide +kernel)

end Engine

end KeySynth
