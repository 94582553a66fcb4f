import Mathlib.Tactic.Common
import KeySynth.Engine.Send

/-!
What emitting does to a run.

Between two tokens a run does nothing but emit events and pause. `Flows` is that relation, with a
condition on the events; whatever an event and a pause keep is kept by all of it. `still` is the
part of a run that neither of them touches.
-/

namespace KeySynth

/-- Only a run that injects event by event waits; the others leave marks. -/
def Pause.Suits (b : Backend) : Pause → Prop
  | .sleep _ | .wait _ => b = .event
  | .none | .mark _ => True

lemma Backend.keyPause_suits (b : Backend) (delay : Int) : (b.keyPause delay).Suits b := by
  unfold keyPause
  cases b <;> split_ifs <;> simp [Pause.Suits]

lemma Backend.mousePause_suits (b : Backend) (delay : Int) : (b.mousePause delay).Suits b := by
  have h := b.keyPause_suits delay
  unfold mousePause
  split
  · rename_i ms hms
    rw [hms] at h
    split_ifs <;> exact h
  · exact h

lemma Backend.isBatch_iff {b : Backend} : b.isBatch = true ↔ b ≠ .event := by
  cases b <;> decide

namespace Run

section

variable {P : Type}

/-- The part of a run that no event and no pause touches. -/
def still (r : Run P) : Run Unit :=
  { r with
    platform := ()
    ledger := { r.ledger with logical := ∅, nonIgnored := ∅ }
    batch := none
    pointer := none
    journal := [] }

variable {r s : Run P} (h : s.still = r.still)
include h

lemma still_altgr : s.altgr = r.altgr := congrArg (·.altgr) h
lemma still_maskKey : s.maskKey = r.maskKey := congrArg (·.maskKey) h
lemma still_backend : s.backend = r.backend := congrArg (·.backend) h
lemma still_layout : s.layout = r.layout := congrArg (·.layout) h
lemma still_fault : s.fault = r.fault := congrArg (·.fault) h
lemma still_tag : s.tag = r.tag := congrArg (·.tag) h
lemma still_estimate : s.estimate = r.estimate := congrArg (·.estimate) h
lemma still_blind : s.blind = r.blind := congrArg (·.blind) h
lemma still_blindBase : s.blindBase = r.blindBase := congrArg (·.blindBase) h
lemma still_keyMods : s.keyMods = r.keyMods := congrArg (·.keyMods) h
lemma still_persistent : s.ledger.persistent = r.ledger.persistent :=
  congrArg (·.ledger.persistent) h
lemma still_remapped : s.ledger.remapped = r.ledger.remapped := congrArg (·.ledger.remapped) h
lemma still_layouts : s.ledger.layouts = r.ledger.layouts := congrArg (·.ledger.layouts) h

lemma still_kept : s.kept = r.kept := by
  rw [kept, kept, still_persistent h, still_blindBase h]

lemma still_restored : s.restored = r.restored := by
  rw [restored, restored, still_persistent h, still_remapped h, still_estimate h,
    still_blindBase h]

end

variable {P : Type} [Platform P] (r : Run P)

/-- The event of a key, its codes filled in. -/
def keyEvent (vk : VirtualKey) (sc : ScanCode) (up : Bool) (info : Tag) : EventRecord :=
  let vk := if vk = 0 then Platform.keyAt r.platform sc r.layout else vk
  let sc := if sc = 0 then Platform.scanOf r.platform vk r.layout else sc
  .key ⟨vk, sc, up, sc.isExtended, false, info⟩

lemma emitKey_eq (vk : VirtualKey) (sc : ScanCode) (up : Bool) (info : Tag) :
    r.emitKey vk sc up info = r.emit (r.keyEvent vk sc up info) := rfl

/-- Sending an event touches the platform and the batch only. -/
lemma dispatch_yieldAfter_eq (e e' : EventRecord) :
    ∃ p b, (r.dispatch e').yieldAfter e = { r with platform := p, batch := b } := by
  have hd : ∃ p b, r.dispatch e' = { r with platform := p, batch := b } := by
    unfold dispatch
    split
    · exact ⟨r.platform, _, rfl⟩
    · exact ⟨_, r.batch, rfl⟩
  obtain ⟨p, b, hd⟩ := hd
  rw [hd]
  unfold yieldAfter
  split_ifs
  · exact ⟨_, b, rfl⟩
  · exact ⟨p, b, rfl⟩

lemma emit_eq (e : EventRecord) :
    ∃ p b, r.emit e = { r with
      platform := p
      batch := b
      journal := ⟨e, r.ledger.logical⟩ :: r.journal
      ledger := r.ledger.note r.altgr e
      pointer := e.destination?.or r.pointer } := by
  obtain ⟨p, b, h⟩ := dispatch_yieldAfter_eq (P := P) { r with
    journal := ⟨e, r.ledger.logical⟩ :: r.journal
    ledger := r.ledger.note r.altgr e
    pointer := e.destination?.or r.pointer } e (e.carried r.backend)
  exact ⟨p, b, h⟩

lemma pause_eq (p : Pause) : ∃ q b, r.pause p = { r with platform := q, batch := b } := by
  cases p with
  | none => exact ⟨r.platform, r.batch, rfl⟩
  | mark ms =>
    unfold pause emitMark
    dsimp only
    split
    · exact ⟨r.platform, _, rfl⟩
    · exact ⟨r.platform, r.batch, rfl⟩
  | sleep ms => exact ⟨_, r.batch, rfl⟩
  | wait ms => exact ⟨_, r.batch, rfl⟩

/-- Of a ledger an event changes what is logically down and nothing else. -/
lemma note_eq (l : Ledger) (altgr : Bool) (e : EventRecord) :
    ∃ t u, l.note altgr e = { l with logical := t, nonIgnored := u } := by
  cases e with
  | key k =>
    unfold Ledger.note Ledger.noteKey
    dsimp only
    split_ifs
    · exact ⟨_, _, rfl⟩
    · exact ⟨_, l.nonIgnored, rfl⟩
  | mouse m => exact ⟨l.logical, l.nonIgnored, rfl⟩
  | delay ms => exact ⟨l.logical, l.nonIgnored, rfl⟩

lemma still_emit (e : EventRecord) : (r.emit e).still = r.still := by
  obtain ⟨p, b, h⟩ := r.emit_eq e
  obtain ⟨t, u, hl⟩ := note_eq r.ledger r.altgr e
  rw [h, hl]
  rfl

lemma journal_emit (e : EventRecord) :
    (r.emit e).journal = ⟨e, r.ledger.logical⟩ :: r.journal := by
  obtain ⟨p, b, h⟩ := r.emit_eq e
  rw [h]

lemma ledger_emit (e : EventRecord) : (r.emit e).ledger = r.ledger.note r.altgr e := by
  obtain ⟨p, b, h⟩ := r.emit_eq e
  rw [h]

lemma batch_yieldAfter (r : Run P) (e : EventRecord) : (r.yieldAfter e).batch = r.batch := by
  unfold yieldAfter
  split_ifs <;> rfl

lemma batch_emit (r : Run P) (e : EventRecord) :
    (r.emit e).batch = r.batch.map (·.push (e.carried r.backend)) := by
  unfold emit
  rw [batch_yieldAfter]
  unfold dispatch
  split <;> simp_all

lemma still_pause (p : Pause) : (r.pause p).still = r.still := by
  obtain ⟨q, b, h⟩ := r.pause_eq p
  rw [h]
  rfl

lemma journal_pause (p : Pause) : (r.pause p).journal = r.journal := by
  obtain ⟨q, b, h⟩ := r.pause_eq p
  rw [h]

lemma ledger_pause (p : Pause) : (r.pause p).ledger = r.ledger := by
  obtain ⟨q, b, h⟩ := r.pause_eq p
  rw [h]

/-- From the first run events of which `Q` holds, and pauses, lead to the second. -/
inductive Flows (Q : EventRecord → Prop) : Run P → Run P → Prop where
  | refl (r : Run P) : Flows Q r r
  | emit {r s : Run P} {e : EventRecord} : Flows Q r s → Q e → Flows Q r (s.emit e)
  | pause {r s : Run P} {p : Pause} : Flows Q r s → p.Suits s.backend → Flows Q r (s.pause p)

namespace Flows

variable {Q : EventRecord → Prop} {r s t : Run P}

lemma trans (h : Flows Q r s) (h' : Flows Q s t) : Flows Q r t := by
  induction h' with
  | refl => exact h
  | emit _ he ih => exact ih.emit he
  | pause _ hp ih => exact ih.pause hp

/-- What each event and each pause keeps is kept. -/
theorem invariant {I : Run P → Prop} (hemit : ∀ s e, Q e → I s → I (s.emit e))
    (hpause : ∀ s p, p.Suits s.backend → I s → I (s.pause p)) (h : Flows Q r s) (hr : I r) :
    I s := by
  induction h with
  | refl => exact hr
  | emit _ he ih => exact hemit _ _ he ih
  | pause _ hp ih => exact hpause _ _ hp ih

theorem still (h : Flows Q r s) : s.still = r.still :=
  h.invariant (I := fun s => s.still = r.still) (fun s e _ hs => (s.still_emit e).trans hs)
    (fun s p _ hs => (s.still_pause p).trans hs) rfl

/-- The journal only grows, by events of the flow. -/
theorem journal (h : Flows Q r s) :
    ∃ news : List Emission, s.journal = news ++ r.journal ∧ ∀ em ∈ news, Q em.event := by
  induction h with
  | refl => exact ⟨[], by simp, by simp⟩
  | @emit s e _ he ih =>
    obtain ⟨news, hj, hQ⟩ := ih
    refine ⟨⟨e, s.ledger.logical⟩ :: news, by rw [s.journal_emit, hj]; rfl, ?_⟩
    intro em hem
    rcases List.mem_cons.mp hem with rfl | hem
    · exact he
    · exact hQ em hem
  | @pause s p _ _ ih =>
    obtain ⟨news, hj, hQ⟩ := ih
    exact ⟨news, by rw [s.journal_pause, hj], hQ⟩

lemma maskKey (h : Flows Q r s) : s.maskKey = r.maskKey := still_maskKey h.still

lemma strike (h : Flows Q r s) (motion : KeyMotion) {vk : VirtualKey} {sc : ScanCode}
    (hQ : ∀ (t : Run P) up, Q (t.keyEvent vk sc up t.tag)) :
    Flows Q r (s.strike motion vk sc) := by
  cases motion with
  | down => exact h.emit (hQ s false)
  | up => exact h.emit (hQ s true)
  | downUp =>
    have hp : Flows Q r (s.emitKey vk sc false s.tag).pressPause :=
      (h.emit (hQ s false)).pause (Backend.keyPause_suits _ _)
    have ht : (s.emitKey vk sc false s.tag).pressPause.tag = s.tag :=
      still_tag ((still_pause _ _).trans (s.still_emit _))
    have hq := hQ (s.emitKey vk sc false s.tag).pressPause true
    rw [ht] at hq
    exact hp.emit hq

lemma tapLock (h : Flows Q r s) {vk : VirtualKey}
    (hQ : ∀ (t : Run P) up, Q (t.keyEvent vk 0 up t.tag)) : Flows Q r (s.tapLock vk) :=
  (h.strike .downUp hQ).pause (Backend.keyPause_suits _ _)

/-- Without a batch at the beginning there is none later. -/
lemma batch_eq_none (h : Flows Q r s) (hb : r.batch = none) : s.batch = none := by
  refine h.invariant (I := fun s => s.batch = none) (fun s e _ hs => ?_) (fun s p _ hs => ?_) hb
  · rw [batch_emit, hs]
    rfl
  · cases p with
    | mark ms =>
      unfold Run.pause emitMark
      dsimp only
      rw [hs]
      exact hs
    | none | sleep ms | wait ms => exact hs

end Flows

end Run

end KeySynth
