import KeySynth.Proofs.Engine.Emission
import KeySynth.Proofs.Ledger.LayoutCache
import KeySynth.Proofs.Script.Tokens

/-!
The ledger follows the keys.

The ledger takes every key by its own code, the system as it comes, in a replay without its side.
They agree on the modifiers as long as scan codes have the sides that their keys have, and go on to
agree however much of a batch gets through.
-/

namespace KeySynth

open Modifier Recorder

/-- A key that is a modifier has no scan code or one of the same side. -/
def SidedKey (vk : VirtualKey) (sc : ScanCode) : Prop :=
  ∀ m, ofKey? (if vk = 0 then sc.key else vk) = some m → sc = 0 ∨ ofKey? sc.key = some m

/-- If it names a modifier key, it does so without a scan code or with one of the same side. -/
def Token.Sided : Token → Prop
  | .key (.named (.key vk sc)) _ => SidedKey vk sc
  | _ => True

lemma sidedKey_zero (vk : VirtualKey) : SidedKey vk 0 := fun _ _ => .inl rfl

lemma sidedKey_modifier (m : Modifier) : SidedKey m.key m.scan := by
  intro n hn
  rw [if_neg m.key_ne_zero] at hn
  exact .inr (VirtualKey.ofKey?_scan hn)

namespace Run

variable {P : Type} [Platform P] [Recorder P]

lemma sided_keyEvent {vk : VirtualKey} {sc : ScanCode} (h : SidedKey vk sc) (r : Run P) (up : Bool)
    (info : Tag) : (r.keyEvent vk sc up info).Sided := by
  intro m hm
  simp only [keyAt_eq] at hm
  refine ⟨rfl, ?_⟩
  simp only [keyAt_eq, scanOf_eq]
  rcases h m hm with rfl | hsc
  · simp only [if_true]
    exact VirtualKey.ofKey?_scan hm
  · by_cases h0 : sc = 0
    · rw [h0, ScanCode.key_zero] at hsc
      cases hsc
    · rwa [if_neg h0]

lemma admits_sided {maskKey : VirtualKey × ScanCode} (h : SidedKey maskKey.1 maskKey.2) :
    Admits P EventRecord.Sided (fun _ vk sc => SidedKey vk sc) maskKey where
  modifier s m up := s.sided_keyEvent (sidedKey_modifier m) up _
  mask s up := s.sided_keyEvent h up _
  stroke s _ _ _ hk up := s.sided_keyEvent hk up _
  lock s vk _ up := s.sided_keyEvent (sidedKey_zero vk) up _
  unit _ _ _ _ hm := nomatch hm
  mouse _ := trivial

lemma strokes_sided {t : Token} (h : t.Sided) : Strokes P (fun _ vk sc => SidedKey vk sc) t := by
  have hc : ∀ motion, CharStrokes P (fun _ vk sc => SidedKey vk sc) motion := fun _ =>
    ⟨sidedKey_zero _, sidedKey_zero _, fun _ _ _ _ _ => sidedKey_zero _⟩
  match t with
  | .char c => exact hc _
  | .key (.char c) a => exact hc _
  | .key (.named (.mouse b)) a => exact trivial
  | .key (.named (.key vk sc)) a =>
    intro p l m hm
    refine h m ?_
    rw [keyAt_eq] at hm
    split_ifs at hm ⊢ <;> exact hm
  | .asc ds => exact fun _ _ => sidedKey_zero _
  | .modifier _ | .click _ | .raw | .text | .blind _ | .unicode _ | .invalidUnicode _
  | .unknown _ => exact trivial

/-- The ledger holds the modifiers that are down at the desk, but for those held by hand. -/
structure Tracks (d : Desktop) (r : Run P) : Prop where
  altgr : r.altgr = d.altgr
  mem : ∀ m ∉ d.physical, m ∈ r.ledger.logical ↔ m.key ∈ (r.desk d).down

variable {d : Desktop}

omit [Recorder P] in
/-- The ledger and the desk take an event alike. -/
lemma Tracks.emit {r : Run P} (h : Tracks d r) {e : EventRecord} (he : e.Sided) :
    Tracks d (r.emit e) where
  altgr := (still_altgr (r.still_emit e)).trans h.altgr
  mem m hm := by
    rw [ledger_emit, desk_emit]
    cases e with
    | key k =>
      rw [Desktop.mem_down_apply_carried he, (desk_eq d r).1, ← h.altgr, Ledger.note,
        Ledger.logical_noteKey, Mask.mem_assign, h.mem m hm]
      split_ifs <;> simp
    | mouse k =>
      change m ∈ r.ledger.logical ↔ m.key ∈ ((r.desk d).apply (.mouse k)).down
      rw [Desktop.keys_down (Desktop.keys_apply_mouse _ k)]
      exact h.mem m hm
    | delay ms => exact h.mem m hm

omit [Recorder P] in
lemma Tracks.pause {r : Run P} (h : Tracks d r) (p : Pause) : Tracks d (r.pause p) where
  altgr := (still_altgr (r.still_pause p)).trans h.altgr
  mem m hm := by
    rw [ledger_pause, desk_pause]
    exact h.mem m hm

/-- The ledger follows the desk. -/
structure Follows (d : Desktop) (maskKey : VirtualKey × ScanCode) (r : Run P) : Prop where
  maskKey : r.maskKey = maskKey
  tracks : Tracks d r

namespace Follows

variable {maskKey : VirtualKey × ScanCode} (hmask : SidedKey maskKey.1 maskKey.2)

omit [Recorder P] in
lemma flows {r s : Run P} (h : Follows d maskKey r) (hf : Flows EventRecord.Sided r s) :
    Follows d maskKey s where
  maskKey := hf.maskKey.trans h.maskKey
  tracks := hf.invariant (fun _ _ he hs => hs.emit he) (fun _ p _ hs => hs.pause p) h.tracks

omit [Platform P] [Recorder P] in
lemma conclude {s : Run P} (h : Follows d maskKey s) (t : Token)
    (said : Option (Modifier × Explicit)) : Follows d maskKey (s.conclude t said) := by
  obtain ⟨l, mode, base, mods, f, hl, he⟩ := s.conclude_eq t said
  rw [he]
  refine ⟨h.maskKey, h.tracks.altgr, fun m hm => ?_⟩
  exact (Eq.to_iff (congrArg (m ∈ ·) hl)).trans (h.tracks.mem m hm)

lemma tapLock {r : Run P} (h : Follows d maskKey r) (vk : VirtualKey) :
    Follows d maskKey (r.tapLock vk) :=
  h.flows ((Flows.refl r).tapLock fun t up => t.sided_keyEvent (sidedKey_zero vk) up _)

include hmask

lemma course {r s : Run P} (h : Follows d maskKey r)
    (hc : Course (fun _ vk sc => SidedKey vk sc) r s) : Follows d maskKey s :=
  h.flows (hc.flows (admits_sided hmask) h.maskKey)

lemma act {r : Run P} (h : Follows d maskKey r) {t : Token} (ht : t.Sided) :
    Follows d maskKey (r.act t) := by
  obtain ⟨s, hs, he⟩ := r.act_eq (strokes_sided ht)
  rw [he]
  exact (h.course hmask hs).conclude t _

lemma putBack {r : Run P} (h : Follows d maskKey r) (capsLock : Bool) :
    Follows d maskKey (r.putBack capsLock) := by
  unfold Run.putBack
  have hr := h.course hmask ((Course.refl r).reconcile r.restored .both)
  split_ifs
  · exact hr.tapLock .capsLock
  · exact hr

/-- The ledger follows the tokens of a text. -/
theorem interpret {r : Run P} (h : Follows d maskKey r) {ts : List Token}
    (hts : ∀ t ∈ ts, t.Sided) : Follows d maskKey (r.storeCapsLock.interpret ts) := by
  refine interpret_invariant (fun s t ht hs => hs.act hmask (hts t ht)) ?_
  unfold storeCapsLock
  split_ifs
  · exact h.tapLock .capsLock
  · exact h

end Follows

end Run

/-! ### A whole send -/

/-- What is found down is what the system answers. -/
lemma Engine.mem_heldDown {P : Type} [Platform P] {p : P} {m : Modifier} :
    m ∈ heldDown p ↔ Platform.isDown p m.key = true := by
  have h : ∀ (l : List Modifier) (s : Mask),
      m ∈ l.foldl (fun s m => if Platform.isDown p m.key then s ∪ {m} else s) s ↔
        m ∈ s ∨ m ∈ l ∧ Platform.isDown p m.key = true := by
    intro l
    induction l with
    | nil => simp
    | cons n l ih =>
      intro s
      rw [List.foldl_cons, ih]
      by_cases hmn : m = n
      · subst hmn
        split_ifs with hd <;> simp [hd]
      · split_ifs <;> simp [hmn]
  exact (h all ∅).trans (by simp [m.mem_all])

namespace Engine

variable {P : Type} [Platform P] {e : Engine P} {o : SendOptions}

/-- The cache agrees with the platform. -/
def Truthful (e : Engine P) : Prop :=
  ∀ l b, (l, b) ∈ e.ledger.layouts.entries → b = Platform.hasAltGr e.platform l

/-- A send finds out whether the layout has AltGr. -/
lemma Truthful.altgr_opened (h : e.Truthful) (ts : List Token) (o : SendOptions) :
    (e.opened ts o).altgr =
      Platform.hasAltGr e.platform (Platform.focusedLayout e.platform o.target) := by
  change (e.ledger.layouts.hasAltGr (Platform.focusedLayout e.platform o.target)
    (Platform.hasAltGr e.platform)).1 = _
  cases hget : e.ledger.layouts.get? (Platform.focusedLayout e.platform o.target) with
  | none => rw [LayoutCache.hasAltGr_of_none hget]
  | some b =>
    rw [LayoutCache.hasAltGr_of_some hget]
    exact h _ b (LayoutCache.mem_entries_of_get? hget)

variable [Recorder P]

lemma follows_opened (hcache : e.Truthful)
    (haltgr : Platform.hasAltGr e.platform (Platform.focusedLayout e.platform o.target) =
      (desktop e.platform).altgr) (ts : List Token) :
    Run.Follows (desktop e.platform) e.maskKey (e.opened ts o) where
  maskKey := rfl
  tracks := by
    refine ⟨(hcache.altgr_opened ts o).trans haltgr, fun m hm => ?_⟩
    change m ∈ heldDown e.platform ↔ m.key ∈ (desktop e.platform).down
    rw [mem_heldDown, isDown_eq, Desktop.isDown_key hm]

lemma follows_typed (hcache : e.Truthful)
    (haltgr : Platform.hasAltGr e.platform (Platform.focusedLayout e.platform o.target) =
      (desktop e.platform).altgr) (hmask : SidedKey e.maskKey.1 e.maskKey.2) {ts : List Token}
    (hts : ∀ t ∈ ts, t.Sided) : Run.Follows (desktop e.platform) e.maskKey (e.typed ts o) :=
  ((follows_opened hcache haltgr ts).interpret hmask hts).putBack hmask _

/-- **The ledger follows the keys**, on any platform that records on a desktop. -/
theorem logical_sendRun (hcache : e.Truthful)
    (haltgr : Platform.hasAltGr e.platform (Platform.focusedLayout e.platform o.target) =
      (desktop e.platform).altgr)
    (hworks : e.backendFor o = .event → works e.platform)
    (hmask : SidedKey e.maskKey.1 e.maskKey.2) {ts : List Token} (hts : ∀ t ∈ ts, t.Sided)
    {m : Modifier} (hm : m ∉ (desktop e.platform).physical) :
    m ∈ (e.sendRun ts o).ledger.logical ↔
      Platform.isDown (e.sendRun ts o).platform m.key = true := by
  have hp : Run.Follows _ _ (e.typed ts o) := follows_typed hcache haltgr hmask hts
  rw [isDown_eq]
  cases ending_sendRun hworks ts with
  | whole hk hl =>
    rw [hl, hp.tracks.mem m hm, Desktop.keys_isDown hk, Desktop.isDown_key]
    rwa [(Run.desk_eq _ _).2]
  | nothing hk hl =>
    have hl : (e.sendRun ts o).ledger.logical = heldDown e.platform := congrArg (·.logical) hl
    rw [hl, Desktop.keys_isDown hk, ← isDown_eq, ← mem_heldDown]
  | part _ _ hl => rw [hl, mem_heldDown, isDown_eq]

/-- **The ledger follows the keys**, however a send goes: a modifier that is not held by hand is in
the ledger exactly if its key is down. An event that is sent by itself has to get through; of a
batch all, a part or nothing may. -/
theorem mem_logical_send {e : Engine Bench} {text : String} {o : SendOptions}
    (hlayout : e.platform.layout = none) (hlayouts : e.platform.altgrLayouts = [])
    (hcache : e.Truthful) (htext : text ≠ "") (hmask : SidedKey e.maskKey.1 e.maskKey.2)
    (hkeys : ∀ t ∈ Token.ofText o.raw text, t.Sided)
    (hsingle : e.backendFor o = .event →
      e.platform.desktop.failing = false ∧ e.platform.limit ≠ some 0) :
    ∀ m ∉ e.platform.desktop.physical, m ∈ (e.send text o).2.ledger.logical ↔
      Platform.isDown (e.send text o).2.platform m.key = true := by
  have hts : Token.ofText o.raw text ≠ [] := fun h => htext (Token.ofText_eq_nil h)
  intro m hm
  simp only [send, List.isEmpty_iff, hts, if_false]
  exact logical_sendRun hcache (Bench.hasAltGr_focused hlayout hlayouts _) hsingle hmask hkeys hm

/-- Only the first event of a batch gets through. -/
theorem mem_logical_send_of_part :
    Modifier.lctrl ∈ ((Engine.new { Bench.new with limit := some 1 }
        { sendMode := .input }).send "^a" .plain).2.ledger.logical ↔
      Platform.isDown ((Engine.new { Bench.new with limit := some 1 }
        { sendMode := .input }).send "^a" .plain).2.platform Modifier.lctrl.key = true := by
  have hts : Token.ofText .notRaw "^a" = [.modifier .lctrl, .char 'a'] := by
    simp [Token.ofText, Token.ofChars, Token.ofChar, ofSymbol?]
  refine mem_logical_send rfl rfl (fun _ _ h => absurd h List.not_mem_nil) (by decide)
    (sidedKey_modifier lctrl) (fun t ht => ?_) (by decide) lctrl (by decide)
  change t ∈ Token.ofText .notRaw "^a" at ht
  rw [hts, List.mem_cons, List.mem_singleton] at ht
  rcases ht with rfl | rfl <;> trivial

end Engine

end KeySynth
