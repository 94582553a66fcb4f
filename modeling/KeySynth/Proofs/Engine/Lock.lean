import KeySynth.Proofs.Engine.Balance

/-!
A lock key along a run.

What is done with other keys leaves a lock as it is, also what is done between two taps of a lock
key; a press of its own key switches it. So CapsLock is at the end of a send where it was before,
whether it had to be off while keys were typed or not.
-/

namespace KeySynth

open Modifier

/-- A key other than `v`. If it is a modifier it has no scan code or one of the same side. -/
def OffKey (v vk : VirtualKey) (sc : ScanCode) : Prop :=
  SidedKey vk sc ∧ (if vk = 0 then sc.key else vk) ≠ v

/-- An event of a key other than `v`, or of no key. -/
def EventRecord.Off (v : VirtualKey) : EventRecord → Prop
  | .key k => EventRecord.Sided (.key k) ∧ k.vk ≠ v
  | .mouse _ | .delay _ => True

/-- It names a key other than `v`, or no key. -/
def Token.Off (v : VirtualKey) : Token → Prop
  | .key (.named (.key vk sc)) _ => OffKey v vk sc
  | _ => True

variable {v : VirtualKey}

lemma ne_of_isLock {vk : VirtualKey} (hv : v.isLock = true) (h : vk.isLock = false) : vk ≠ v := by
  rintro rfl
  rw [hv] at h
  cases h

lemma offKey_modifier (hv : v.isLock = true) (m : Modifier) : OffKey v m.key m.scan := by
  refine ⟨sidedKey_modifier m, ?_⟩
  rw [if_neg m.key_ne_zero]
  exact ne_of_isLock hv (ModifierKey.isLock_eq_false ⟨m, rfl⟩)

/-- A key without a scan code. -/
lemma offKey_zero (hv : v.isLock = true) {vk : VirtualKey} (h : vk ≠ v) : OffKey v vk 0 := by
  refine ⟨sidedKey_zero vk, ?_⟩
  split_ifs
  · exact ne_of_isLock hv (by decide)
  · exact h

lemma VirtualKey.Typing.offKey {vk : VirtualKey} (h : vk.Typing) (hv : v.isLock = true) :
    OffKey v vk 0 := offKey_zero hv (ne_of_isLock hv h.isLock)

namespace Desktop

variable {d : Desktop} {e : EventRecord}

lemma moves_ne (hv : v.isLock = true) {k : KeyRecord} (h : EventRecord.Off v (.key k))
    (b : Backend) : moves b k ≠ v := by
  cases hm : ofKey? k.vk with
  | none =>
    rw [moves_of_none hm]
    exact h.2
  | some m =>
    rw [moves_of_some h.1 hm]
    exact ne_of_isLock hv (ModifierKey.isLock_eq_false ⟨m, rfl⟩)

/-- Other keys leave a lock as it is. -/
lemma lock_apply (hv : v.isLock = true) (h : e.Off v) (b : Backend) :
    (v ∈ (d.apply (e.carried b)).down ↔ v ∈ d.down) ∧
      (v ∈ (d.apply (e.carried b)).toggled ↔ v ∈ d.toggled) := by
  cases e with
  | key k =>
    have hne := moves_ne hv h b
    unfold moves at hne
    rw [EventRecord.carried]
    set k' := if b = .play then { k with vk := k.vk.neutral } else k
    by_cases hu : k'.unicode = true
    · have hkeys := keys_apply_unicode (d := d) hu
      rw [keys_down hkeys, keys_toggled hkeys]
      exact ⟨Iff.rfl, Iff.rfl⟩
    · constructor
      · rw [mem_down_applyKey (by simpa using hu), if_neg]
        rintro (hk | ⟨-, -, hk⟩)
        · exact hne hk.symm
        · exact ne_of_isLock hv (ModifierKey.isLock_eq_false ⟨lctrl, rfl⟩) hk.symm
      · rw [mem_toggled_applyKey, if_neg fun hk => hne hk.1.symm]
  | mouse m =>
    have hkeys : (d.apply ((EventRecord.mouse m).carried b)).keys = d.keys := keys_apply_mouse d m
    rw [keys_down hkeys, keys_toggled hkeys]
    exact ⟨Iff.rfl, Iff.rfl⟩
  | delay ms => exact ⟨Iff.rfl, Iff.rfl⟩

end Desktop

namespace Run

variable {d : Desktop} {T : Prop} {r s : Run Desktop}

/-- What a token strikes if it does not name a lock. -/
lemma strokes_off (hv : v.isLock = true) {t : Token} (ht : t.Off v)
    (hd : ∀ ds, t = .asc ds → ∀ c ∈ ds.toList, c.isDigit = true) :
    Strokes Desktop (fun _ => OffKey v) t := by
  have hc : ∀ motion, CharStrokes Desktop (fun _ => OffKey v) motion := fun _ =>
    ⟨offKey_zero hv (ne_of_isLock hv (by decide)), offKey_zero hv (ne_of_isLock hv (by decide)),
      fun _ _ _ _ hk => (Desktop.typing_chord? hk).offKey hv⟩
  match t with
  | .char c => exact hc _
  | .key (.char c) a => exact hc _
  | .key (.named (.mouse b)) a => exact trivial
  | .key (.named (.key vk sc)) a =>
    have hs : (Token.key (.named (.key vk sc)) a).Sided := ht.1
    refine fun p l => ⟨(strokes_sided hs : Strokes Desktop _ _) p l, ?_⟩
    have hne := ht.2
    change (if (if vk = 0 then sc.key else vk) = 0 then sc.key
      else (if vk = 0 then sc.key else vk)) ≠ v
    split_ifs at hne ⊢ <;> assumption
  | .asc ds => exact fun c hc' => (VirtualKey.Typing.of_digit (hd ds rfl c hc')).offKey hv
  | .modifier _ | .click _ | .raw | .text | .blind _ | .unicode _ | .invalidUnicode _
  | .unknown _ => exact trivial

/-- The key of a lock is up, and the lock is on just if `T`. -/
structure Locked (v : VirtualKey) (d : Desktop) (T : Prop) (r : Run Desktop) : Prop where
  isLock : v.isLock = true
  up : v ∉ (r.desk d).down
  toggled : v ∈ (r.desk d).toggled ↔ T

namespace Locked

lemma congr {U : Prop} (h : Locked v d T r) (hTU : T ↔ U) : Locked v d U r :=
  ⟨h.isLock, h.up, h.toggled.trans hTU⟩

section

variable (h : Locked v d T r)
include h

lemma emit {e : EventRecord} (he : e.Off v) : Locked v d T (r.emit e) where
  isLock := h.isLock
  up := by
    rw [desk_emit, (Desktop.lock_apply h.isLock he _).1]
    exact h.up
  toggled := by
    rw [desk_emit, (Desktop.lock_apply h.isLock he _).2]
    exact h.toggled

lemma pause (p : Pause) : Locked v d T (r.pause p) where
  isLock := h.isLock
  up := by
    rw [desk_pause]
    exact h.up
  toggled := by
    rw [desk_pause]
    exact h.toggled

lemma emitKey {vk : VirtualKey} {sc : ScanCode} (hk : OffKey v vk sc) (up : Bool) (info : Tag) :
    Locked v d T (r.emitKey vk sc up info) :=
  h.emit ⟨r.sided_keyEvent hk.1 up info, hk.2⟩

lemma strike {motion : KeyMotion} {vk : VirtualKey} {sc : ScanCode} (hk : OffKey v vk sc) :
    Locked v d T (r.strike motion vk sc) := by
  have hf : Flows (EventRecord.Off v) r (r.strike motion vk sc) :=
    (Flows.refl r).strike _ fun t up => ⟨t.sided_keyEvent hk.1 up _, hk.2⟩
  exact hf.invariant (I := Locked v d T) (fun _ _ he hs => hs.emit he) (fun _ p _ hs => hs.pause p)
    h

/-- A press of its key switches a lock. -/
lemma press {vk : VirtualKey} {sc : ScanCode} (hk : (if vk = 0 then sc.key else vk) = v) :
    Locked v d (¬T) (r.strike .downUp vk sc) := by
  have hs : SidedKey vk sc := fun m hm => by
    rw [hk, ofKey?_of_isLock h.isLock] at hm
    cases hm
  have hland : landing vk sc = v := (landing_lock (hk ▸ h.isLock)).trans hk
  obtain ⟨k, hdown, hu, hup, hkey⟩ := r.desk_emitKey (d := d) hs false r.tag
  obtain ⟨k', hrise, hu', hup', hkey'⟩ :=
    (r.emitKey vk sc false r.tag).pressPause.desk_emitKey (d := d) hs true r.tag
  rw [pressPause, desk_pause, hdown] at hrise
  have hdesk : (r.strike .downUp vk sc).desk d = ((r.desk d).apply (.key k)).apply (.key k') :=
    hrise
  have hlock : (Desktop.keyOf k).isLock = true := by
    rw [hkey, hland]
    exact h.isLock
  refine ⟨h.isLock, ?_, ?_⟩
  · rw [hdesk, Desktop.mem_down_applyKey hu', if_pos (.inl (hland.symm.trans hkey'.symm)), hup']
    decide
  · rw [hdesk, Desktop.mem_toggled_applyKey, if_neg (by simp [hup']),
      Desktop.mem_toggled_applyKey, if_pos ⟨hland.symm.trans hkey.symm, hu, hup, hlock, h.up⟩,
      h.toggled]

lemma tapLock : Locked v d (¬T) (r.tapLock v) := (h.press (ite_of_isLock h.isLock)).pause _

lemma conclude (t : Token) (said : Option (Modifier × Explicit)) :
    Locked v d T (r.conclude t said) := by
  obtain ⟨l, mode, base, mods, f, -, he⟩ := r.conclude_eq t said
  rw [he]
  exact ⟨h.isLock, h.up, h.toggled⟩

end

/-- **What is done with other keys leaves a lock as it is**, also what is done between two taps of
a lock key. -/
theorem course (hc : Course (fun _ => OffKey v) r s) (hm : OffKey v r.maskKey.1 r.maskKey.2)
    (h : Locked v d T r) : Locked v d T s := by
  induction hc generalizing T with
  | refl r => exact h
  | trans hrs _ ih ih' => exact ih' (still_maskKey hrs.still ▸ hm) (ih hm h)
  | modifier r m up => exact h.emitKey (offKey_modifier h.isLock m) up _
  | tap r =>
    have hmask : r.maskDown.maskKey = r.maskKey := still_maskKey (r.still_emitKey _ _ _ _)
    exact (h.emitKey hm false .ignore).emitKey (hmask ▸ hm) true .ignore
  | tapRound r m =>
    have hmask : (r.maskDown.emitModifier m false).maskKey = r.maskKey :=
      still_maskKey ((still_emitKey _ _ _ _ _).trans (r.still_emitKey _ _ _ _))
    have hround := (h.emitKey hm false .ignore).emitKey (offKey_modifier h.isLock m) false
      r.maskDown.tag
    exact hround.emitKey (hmask ▸ hm) true .ignore
  | stroke r hK => exact h.strike hK
  | unit r unit up =>
    have hne : VirtualKey.packet ≠ v := ne_of_isLock h.isLock rfl
    exact h.emit ⟨nofun, hne⟩
  | mouse r flags data point => exact h.emit (e := .mouse ⟨flags, data, point, r.tag⟩) trivial
  | pause r _ => exact h.pause _
  | @lock r s vk hl hrs ih =>
    have hm' := still_maskKey (r.still_strike .downUp vk 0) ▸ hm
    by_cases hn : vk = v
    · subst hn
      exact ((ih hm' (h.press (ite_of_isLock hl))).press (ite_of_isLock hl)).congr not_not
    · have hk := offKey_zero h.isLock hn
      exact (ih hm' (h.strike hk)).strike hk

/-! ### Tokens -/

/-- Tokens that do not name its key leave a lock as it is. -/
lemma act (hm : OffKey v r.maskKey.1 r.maskKey.2) (h : Locked v d T r) {t : Token} (ht : t.Off v)
    (hd : ∀ ds, t = .asc ds → ∀ c ∈ ds.toList, c.isDigit = true) : Locked v d T (r.act t) := by
  obtain ⟨q, hq, he⟩ := r.act_eq (strokes_off h.isLock ht hd)
  rw [he]
  exact (h.course hq hm).conclude t _

/-- So do texts. -/
lemma interpret (hm : OffKey v r.maskKey.1 r.maskKey.2) (h : Locked v d T r) {ts : List Token}
    (hts : ∀ t ∈ ts, t.Off v) (hd : ∀ ds, .asc ds ∈ ts → ∀ c ∈ ds.toList, c.isDigit = true) :
    Locked v d T (r.interpret ts) :=
  (interpret_invariant (I := fun q => q.maskKey = r.maskKey ∧ Locked v d T q) (fun q t ht hq =>
    ⟨(fixed_maskKey (q.fixed_act t)).trans hq.1,
      hq.2.act (hq.1 ▸ hm) (hts t ht) fun _ he => hd _ (he ▸ ht)⟩) ⟨rfl, h⟩).2

/-! ### CapsLock -/

lemma storeCapsLock (h : Locked .capsLock d T r) :
    Locked .capsLock d (if r.storesCapsLock then ¬T else T) r.storeCapsLock := by
  unfold Run.storeCapsLock
  split_ifs
  · exact h.tapLock
  · exact h

lemma putBack (hm : OffKey .capsLock r.maskKey.1 r.maskKey.2) (h : Locked .capsLock d T r)
    (c : Bool) : Locked .capsLock d (if c then ¬T else T) (r.putBack c) := by
  have hr := h.course ((Course.refl r).reconcile r.restored .both) hm
  unfold Run.putBack
  split_ifs
  · exact hr.tapLock
  · exact hr

end Locked

end Run

namespace Engine

variable {e : Engine Desktop} {o : SendOptions} {ts : List Token}

/-- **CapsLock is put back**, if it had to be off at all while a text was typed: whatever comes of a
text that does not name it, and in whatever way it is sent. -/
theorem capsLock_sendRun (hworks : e.platform.failing = false) (hup : .capsLock ∉ e.platform.down)
    (hmask : OffKey .capsLock e.maskKey.1 e.maskKey.2) (hts : ∀ t ∈ ts, t.Off .capsLock)
    (hd : ∀ ds, .asc ds ∈ ts → ∀ c ∈ ds.toList, c.isDigit = true) :
    .capsLock ∈ (e.sendRun ts o).platform.toggled ↔ .capsLock ∈ e.platform.toggled := by
  have h0 : Run.Locked .capsLock e.platform (.capsLock ∈ e.platform.toggled) (e.opened ts o) :=
    ⟨rfl, hup, Iff.rfl⟩
  have hstored : (e.opened ts o).storeCapsLock.maskKey = e.maskKey :=
    Run.still_maskKey (Run.flows_storeCapsLock (e.opened ts o)).still
  have hq : Run.Locked _ _ _ (e.upTo ts o ts) := h0.storeCapsLock.interpret (hstored ▸ hmask) hts hd
  have hm : (e.upTo ts o ts).maskKey = e.maskKey := Run.fixed_maskKey (e.fixed_upTo ts o ts)
  have hback : Run.Locked _ _ _ (e.typed ts o) :=
    hq.putBack (hm ▸ hmask) (e.opened ts o).storesCapsLock
  obtain ⟨hk, -⟩ | ⟨hk, -⟩ := keys_sendRun (e := e) (o := o) hworks ts
  · rw [Desktop.keys_toggled hk, hback.toggled]
    split_ifs
    · exact not_not
    · rfl
  · rw [Desktop.keys_toggled hk]

end Engine

end KeySynth
