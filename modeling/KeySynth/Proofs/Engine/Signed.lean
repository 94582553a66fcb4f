import KeySynth.Proofs.Engine.Persistent

/-!
How events are signed.

Whatever an engine is asked for, all that it sends carries the tag of its level, but for the taps of
the mask key: those carry the tag that every hook ignores.
-/

namespace KeySynth

namespace EventRecord

/-- The tag that an event carries. -/
def info? : EventRecord → Option Tag
  | key k => some k.info
  | mouse m => some m.info
  | delay _ => none

@[simp] lemma info?_carried (b : Backend) (e : EventRecord) : (e.carried b).info? = e.info? := by
  cases e with
  | key k =>
    unfold carried
    dsimp only
    split_ifs <;> rfl
  | mouse m => rfl
  | delay ms => rfl

/-- The mask key goes down or up, to be ignored by every hook. -/
def Disguises (b : Backend) (key : VirtualKey × ScanCode) (up : Bool) (e : EventRecord) : Prop :=
  ∃ k : KeyRecord, e = (EventRecord.key k).carried b ∧ k.up = up ∧ k.unicode = false ∧
    k.info = .ignore ∧ (key.1 ≠ 0 → k.vk = key.1) ∧ (key.2 ≠ 0 → k.sc = key.2)

/-- An event of the key `v` is to be ignored by every hook. -/
def Reserves (v : VirtualKey) (e : EventRecord) : Prop :=
  ∀ k, e = .key k → k.vk = v → k.unicode = false → k.info = .ignore

end EventRecord

/-- All events carry the tag, but for taps of the mask key; another event may stand within a tap. -/
inductive Signed (tag : Tag) (b : Backend) (key : VirtualKey × ScanCode) :
    List EventRecord → Prop where
  | nil : Signed tag b key []
  | event {es : List EventRecord} {e : EventRecord} :
      Signed tag b key es → e.info? = some tag → Signed tag b key (es ++ [e])
  | tap {es : List EventRecord} {d u : EventRecord} : Signed tag b key es →
      d.Disguises b key false → u.Disguises b key true → Signed tag b key (es ++ [d, u])
  | tapRound {es : List EventRecord} {d e u : EventRecord} : Signed tag b key es →
      d.Disguises b key false → e.info? = some tag → u.Disguises b key true →
      Signed tag b key (es ++ [d, e, u])

lemma Signed.info? {tag : Tag} {b : Backend} {key : VirtualKey × ScanCode} {es : List EventRecord}
    (h : Signed tag b key es) {e : EventRecord} (he : e ∈ es) :
    e.info? = some tag ∨ ∃ up, e.Disguises b key up := by
  induction h with
  | nil => cases he
  | event _ htag ih =>
    rcases List.mem_append.mp he with he | he
    · exact ih he
    · obtain rfl := List.mem_singleton.mp he
      exact .inl htag
  | tap _ hd hu ih =>
    rcases List.mem_append.mp he with he | he
    · exact ih he
    · rcases (by simpa using he : e = _ ∨ e = _) with rfl | rfl
      · exact .inr ⟨_, hd⟩
      · exact .inr ⟨_, hu⟩
  | tapRound _ hd htag hu ih =>
    rcases List.mem_append.mp he with he | he
    · exact ih he
    · rcases (by simpa using he : e = _ ∨ e = _ ∨ e = _) with rfl | rfl | rfl
      · exact .inr ⟨_, hd⟩
      · exact .inl htag
      · exact .inr ⟨_, hu⟩

/-- Strokes of other keys than `v`, whatever the platform makes of their scan codes. -/
def SparesKey (P : Type) [Platform P] (v : VirtualKey) : StrokeLaw := fun _ vk sc =>
  ∀ (p : P) l, (if vk = 0 then Platform.keyAt p sc l else vk) ≠ v

/-- A key that is neither a modifier nor a lock. -/
structure VirtualKey.Other (v : VirtualKey) : Prop where
  ne_zero : v ≠ 0
  modifier : v.isModifier = false
  lock : v.isLock = false

lemma VirtualKey.isModifier_neutral (vk : VirtualKey) : vk.neutral.isModifier = vk.isModifier := by
  unfold neutral
  split_ifs with h1 h2 h3
  · rcases h1 with rfl | rfl <;> rfl
  · rcases h2 with rfl | rfl <;> rfl
  · rcases h3 with rfl | rfl <;> rfl
  · rfl

lemma EventRecord.Reserves.carried {v : VirtualKey} (hv : v.Other) {e : EventRecord}
    (h : e.Reserves v) (b : Backend) : (e.carried b).Reserves v := by
  intro k hk hvk hunicode
  cases e with
  | key k₀ =>
    obtain rfl := EventRecord.key.inj hk
    split_ifs at hvk hunicode ⊢
    · have hmod : k₀.vk.isModifier = false := by
        rw [← VirtualKey.isModifier_neutral, ← hv.modifier]
        exact congrArg _ hvk
      have hnone : Modifier.ofKey? k₀.vk = none :=
        Option.isNone_iff_eq_none.mp (Option.isSome_eq_false_iff.mp hmod)
      have hneutral : k₀.vk.neutral = k₀.vk := VirtualKey.ofKey?_neutral hnone
      exact h k₀ rfl (hneutral.symm.trans hvk) hunicode
    · exact h k₀ rfl hvk hunicode
  | mouse m => cases hk
  | delay ms => cases hk

lemma sparesKey_lock {P : Type} [Platform P] {v vk : VirtualKey} (hv : v.Other)
    (hvk : vk.isLock = true) (motion : KeyMotion) (sc : ScanCode) : SparesKey P v motion vk sc := by
  intro p l
  have h0 : vk ≠ 0 := by
    rintro rfl
    cases hvk
  rw [if_neg h0]
  rintro rfl
  rw [hv.lock] at hvk
  cases hvk

/-- All strokes that a text may come to meet the law. -/
def Request.Strikes (P : Type) [Platform P] (K : StrokeLaw) : Request → Prop
  | .send text o => ∀ t ∈ Token.ofText o.raw text, Run.Strokes P K t
  | .move .. | .click _ | .drag .. => True

lemma Request.strikes_any {P : Type} [Platform P] (q : Request) :
    q.Strikes P fun _ _ _ => True := by
  cases q with
  | send text o => exact fun t _ => Run.strokes_any t
  | move | click | drag => trivial

namespace Run

variable {P : Type} [Platform P] {K : StrokeLaw} {tag : Tag} {b : Backend}
  {key : VirtualKey × ScanCode} {r s : Run P}

lemma Course.drag (r : Run P) (b : Button) (start : Option Point) (goal : Point)
    (speed : Option Int) (relative : Bool) : Course K r (r.drag b start goal speed relative) := by
  have hrest : ∀ (s : Run P) (b : Button), Course K r s → Course K r
      (((s.press b s.cursor).moveMouse goal.x goal.y speed relative).release b
        ((s.press b s.cursor).moveMouse goal.x goal.y speed relative).cursor) := fun s b hs =>
    (((hs.trans (.mouse ..)).mousePause.trans (.moveMouse ..)).trans (.mouse ..)).mousePause
  unfold Run.drag
  dsimp only
  split
  · exact hrest _ _ (.moveMouse ..)
  · exact hrest r _ (.refl r)

/-- What a course may be made of if no stroke of it is one of `v`. -/
lemma admits_reserves {v : VirtualKey} {sc : ScanCode} (hv : v.Other) :
    Admits P (EventRecord.Reserves v) (SparesKey P v) (v, sc) where
  modifier s m up k hk hvk _ := by
    have hm : m.key.isModifier = true := by simp [VirtualKey.isModifier]
    cases hk
    obtain rfl : m.key = v := (if_neg m.key_ne_zero).symm.trans hvk
    exact absurd hm (by simp [hv.modifier])
  mask s up k hk _ _ := by
    cases hk
    rfl
  stroke s motion vk sc hK up k hk hvk _ := by
    cases hk
    exact absurd hvk (hK s.platform s.layout)
  lock s vk hl up k hk hvk _ := by
    cases hk
    exact absurd hvk (sparesKey_lock hv hl .down 0 s.platform s.layout)
  unit unit up info k hk _ hunicode := by
    cases hk
    cases hunicode
  mouse m k hk := by cases hk

lemma exists_disguises (r : Run P) (up : Bool) : ∃ e, e.Disguises r.backend r.maskKey up ∧
    (r.emitKey r.maskKey.1 r.maskKey.2 up .ignore).sent = r.sent ++ [e] :=
  ⟨_, ⟨_, rfl, rfl, rfl, rfl, fun hvk => if_neg hvk, fun hsc => if_neg hsc⟩, r.sent_emit _⟩

/-- A tap of the mask key, wherever a run has come to, is to be ignored by every hook. -/
lemma exists_tap (r : Run P) : ∃ d u, d.Disguises r.backend r.maskKey false ∧
    u.Disguises r.backend r.maskKey true ∧ r.maskDown.maskUp.sent = r.sent ++ [d, u] := by
  obtain ⟨d, hd, hdown⟩ := r.exists_disguises false
  obtain ⟨u, hu, hup⟩ := r.maskDown.exists_disguises true
  have hstill : r.maskDown.still = r.still := r.still_emit _
  rw [still_backend hstill, still_maskKey hstill] at hu
  refine ⟨d, u, hd, hu, ?_⟩
  rw [maskUp, hup, maskDown, hdown, List.append_assoc]
  rfl

/-- The same around a modifier that goes down. -/
lemma exists_tapRound (r : Run P) (m : Modifier) : ∃ d e u, d.Disguises r.backend r.maskKey false ∧
    e.info? = some r.tag ∧ u.Disguises r.backend r.maskKey true ∧
      (r.maskDown.emitModifier m false).maskUp.sent = r.sent ++ [d, e, u] := by
  obtain ⟨d, hd, hdown⟩ := r.exists_disguises false
  obtain ⟨u, hu, hup⟩ := (r.maskDown.emitModifier m false).exists_disguises true
  have hmask : r.maskDown.still = r.still := r.still_emit _
  have hstill : (r.maskDown.emitModifier m false).still = r.still :=
    (r.maskDown.still_emit _).trans hmask
  rw [still_backend hstill, still_maskKey hstill] at hu
  obtain ⟨e, he, hmid⟩ : ∃ e : EventRecord, e.info? = some r.tag ∧
      (r.maskDown.emitModifier m false).sent = r.maskDown.sent ++ [e] := by
    refine ⟨_, ?_, sent_emit _ _⟩
    rw [EventRecord.info?_carried]
    exact congrArg some (still_tag hmask)
  refine ⟨d, e, u, hd, he, hu, ?_⟩
  rw [maskUp, hup, hmid, maskDown, hdown, List.append_assoc, List.append_assoc]
  rfl

/-- What a run with a tag and a mask key has sent is signed. -/
structure Signs (tag : Tag) (key : VirtualKey × ScanCode) (r : Run P) : Prop where
  tag_eq : r.tag = tag
  maskKey_eq : r.maskKey = key
  signed : Signed tag r.backend key r.sent

namespace Signs

omit [Platform P] in
lemma of_still (h : r.Signs tag key) (hs : s.still = r.still)
    (hsigned : Signed tag r.backend key s.sent) : s.Signs tag key where
  tag_eq := (still_tag hs).trans h.tag_eq
  maskKey_eq := (still_maskKey hs).trans h.maskKey_eq
  signed := still_backend hs ▸ hsigned

variable (h : r.Signs tag key)
include h

lemma emit {e : EventRecord} (he : e.info? = some tag) : (r.emit e).Signs tag key := by
  refine h.of_still (r.still_emit e) ?_
  rw [sent_emit]
  exact h.signed.event ((e.info?_carried _).trans he)

lemma pause (p : Pause) : (r.pause p).Signs tag key := by
  refine h.of_still (r.still_pause p) ?_
  rw [sent_pause]
  exact h.signed

lemma strike (motion : KeyMotion) (vk : VirtualKey) (sc : ScanCode) :
    (r.strike motion vk sc).Signs tag key := by
  unfold Run.strike
  rw [h.tag_eq]
  cases motion with
  | down => exact h.emit rfl
  | up => exact h.emit rfl
  | downUp => exact ((h.emit rfl).pause _).emit rfl

lemma tap : r.maskDown.maskUp.Signs tag key := by
  obtain ⟨d, u, hd, hu, hsent⟩ := r.exists_tap
  rw [h.maskKey_eq] at hd hu
  exact h.of_still ((still_emit _ _).trans (r.still_emit _)) (hsent ▸ h.signed.tap hd hu)

lemma tapRound (m : Modifier) : (r.maskDown.emitModifier m false).maskUp.Signs tag key := by
  obtain ⟨d, e, u, hd, he, hu, hsent⟩ := r.exists_tapRound m
  rw [h.maskKey_eq] at hd hu
  rw [h.tag_eq] at he
  exact h.of_still ((still_emit _ _).trans ((still_emit _ _).trans (r.still_emit _)))
    (hsent ▸ h.signed.tapRound hd he hu)

lemma course (hc : Course K r s) : s.Signs tag key := by
  induction hc with
  | refl r => exact h
  | trans _ _ ih ih' => exact ih' (ih h)
  | modifier r m up => exact h.emit (congrArg some h.tag_eq)
  | tap r => exact h.tap
  | tapRound r m => exact h.tapRound m
  | stroke r _ => exact h.strike _ _ _
  | unit r unit up => exact h.emit (congrArg some h.tag_eq)
  | mouse r flags data point => exact h.emit (congrArg some h.tag_eq)
  | pause r _ => exact h.pause _
  | lock vk _ _ ih => exact (ih (h.strike _ _ _)).strike _ _ _

end Signs

end Run

namespace Engine

variable {P : Type} [Platform P] {e : Engine P} {q : Request} {r : Run P} {K : StrokeLaw}

/-- What every course, the end of every token and the end of a batch keep holds at the end of a
request if it holds at the beginning. -/
theorem runOf_induction {I : Run P → Prop} (hcaps : K .downUp .capsLock 0)
    (hcourse : ∀ r s, Run.Course K r s → I r → I s)
    (hsession : ∀ (r : Run P) l mode base mods f, I r →
      I { r with ledger := l, raw := mode, blindBase := base, keyMods := mods, fault := f })
    (hflush : ∀ r, I r → I r.flush) (hdiscard : ∀ r, I r → I r.discard)
    (hq : q.Strikes P K) (hopened : ∀ ts o, I (e.opened ts o)) (hmouse : I e.startMouse)
    (hr : e.runOf q = some r) : I r := by
  cases q with
  | send text o =>
    simp only [runOf] at hr
    split_ifs at hr
    cases hr
    have hup : I (e.upTo (Token.ofText o.raw text) o (Token.ofText o.raw text)) := by
      refine Run.interpret_invariant (fun s t ht hs => ?_)
        (hcourse _ _ (.storeCapsLock _ hcaps) (hopened _ o))
      obtain ⟨s', hs', he⟩ := s.act_eq (hq t ht)
      obtain ⟨l, mode, base, mods, f, -, hc⟩ := s'.conclude_eq t (s.explicit? t)
      rw [he, hc]
      exact hsession s' l mode base mods f (hcourse s s' hs' hs)
    rw [sendRun_eq, Run.leave]
    split_ifs
    · exact hdiscard _ hup
    · exact hflush _ (hcourse _ _ (.putBack _ hcaps _) hup)
  | move x y speed relative =>
    cases hr
    exact hflush _ (hcourse _ _ (.moveMouse ..) hmouse)
  | click spec =>
    cases hr
    obtain ⟨s, hs, he⟩ := e.startMouse.click_eq (K := K) spec
    refine hflush _ ?_
    rw [he]
    exact hsession s s.ledger s.raw s.blindBase s.keyMods _ (hcourse _ _ hs hmouse)
  | drag b start goal speed relative =>
    simp only [runOf] at hr
    split_ifs at hr
    cases hr
    exact hflush _ (hcourse _ _ (.drag ..) hmouse)

/-- The same for what does not depend on how a batch ends. -/
theorem runOf_invariant {I : Run P → Prop} (hcaps : K .downUp .capsLock 0)
    (hcourse : ∀ r s, Run.Course K r s → I r → I s)
    (hsession : ∀ (r : Run P) l mode base mods f, I r →
      I { r with ledger := l, raw := mode, blindBase := base, keyMods := mods, fault := f })
    (hend : ∀ (r : Run P) p l b, I r → I { r with platform := p, ledger := l, batch := b })
    (hq : q.Strikes P K) (hopened : ∀ ts o, I (e.opened ts o)) (hmouse : I e.startMouse)
    (hr : e.runOf q = some r) : I r := by
  refine runOf_induction hcaps hcourse hsession (fun s hs => ?_) (fun s hs => ?_) hq hopened hmouse
    hr
  · obtain ⟨p, l, b, he⟩ := s.flush_eq
    exact he ▸ hend s p l b hs
  · obtain ⟨p, l, b, he⟩ := s.discard_eq
    exact he ▸ hend s p l b hs

/-- **All that a request sends is signed** with the level of the engine. -/
theorem signs_runOf (hr : e.runOf q = some r) :
    r.Signs (.ofLevel e.settings.sendLevel) e.maskKey :=
  runOf_invariant (K := fun _ _ _ => True) trivial (fun _ _ hc h => h.course hc)
    (fun _ _ _ _ _ _ h => ⟨h.tag_eq, h.maskKey_eq, h.signed⟩)
    (fun _ _ _ _ h => ⟨h.tag_eq, h.maskKey_eq, h.signed⟩) q.strikes_any
    (fun _ _ => ⟨rfl, rfl, .nil⟩) ⟨rfl, rfl, .nil⟩ hr

/-- A mask key that is neither a modifier nor a lock, and that the text does not strike, is sent to
be ignored and not otherwise. -/
theorem reserves_runOf (hother : e.maskKey.1.Other) (hq : q.Strikes P (SparesKey P e.maskKey.1))
    (hr : e.runOf q = some r) : ∀ ev ∈ r.sent, ev.Reserves e.maskKey.1 := by
  have hjournal : r.maskKey = e.maskKey ∧ ∀ em ∈ r.journal, em.event.Reserves e.maskKey.1 := by
    refine runOf_invariant (I := fun s => s.maskKey = e.maskKey ∧
        ∀ em ∈ s.journal, em.event.Reserves e.maskKey.1) (sparesKey_lock hother rfl .downUp 0)
      (fun s t hc hs => ?_) (fun _ _ _ _ _ _ hs => hs) (fun _ _ _ _ hs => hs) hq
      (fun _ _ => ⟨rfl, nofun⟩) ⟨rfl, nofun⟩ hr
    have hf := hc.flows (Run.admits_reserves hother) hs.1
    obtain ⟨news, hj, hnews⟩ := hf.journal
    refine ⟨hf.maskKey.trans hs.1, fun em hem => ?_⟩
    rw [hj] at hem
    exact (List.mem_append.mp hem).elim (hnews em) (hs.2 em)
  intro ev hev
  obtain ⟨em, hem, rfl⟩ := List.mem_map.mp hev
  exact (hjournal.2 em (List.mem_reverse.mp hem)).carried hother r.backend

end Engine

end KeySynth
