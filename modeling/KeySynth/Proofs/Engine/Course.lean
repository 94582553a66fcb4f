import KeySynth.Proofs.Engine.Reconcile

/-!
What the tokens of a text are made of.

Whatever a token does is a course: modifier keys that move, strokes, packets, mouse events, taps of
the mask key, and pauses, some of it between two taps of a lock key. A course is a flow, so it
leaves the state of the session alone.
-/

namespace KeySynth

open Modifier

/-- The condition that a stroke of a key has to meet. -/
abbrev StrokeLaw := KeyMotion → VirtualKey → ScanCode → Prop

namespace Run

variable {P : Type} [Platform P]

/-- The second run comes from the first by what tokens are made of; all strokes but those of lock
keys meet the law `K`. -/
inductive Course (K : StrokeLaw) : Run P → Run P → Prop where
  | refl (r : Run P) : Course K r r
  | trans {r s t : Run P} : Course K r s → Course K s t → Course K r t
  | modifier (r : Run P) (m : Modifier) (up : Bool) : Course K r (r.emitModifier m up)
  | tap (r : Run P) : Course K r r.maskDown.maskUp
  | tapRound (r : Run P) (m : Modifier) :
      Course K r (r.maskDown.emitModifier m false).maskUp
  | stroke (r : Run P) {motion : KeyMotion} {vk : VirtualKey} {sc : ScanCode} :
      K motion vk sc → Course K r (r.strike motion vk sc)
  | unit (r : Run P) (unit : UInt16) (up : Bool) : Course K r (r.emitUnit unit up)
  | mouse (r : Run P) (flags : MouseFlags) (data : Int) (point : Point) :
      Course K r (r.emitMouse flags data point)
  | pause (r : Run P) {p : Pause} : p.Suits r.backend → Course K r (r.pause p)
  | lock {r s : Run P} (vk : VirtualKey) : vk.isLock = true →
      Course K (r.strike .downUp vk 0) s → Course K r (s.strike .downUp vk 0)

namespace Course

variable {K : StrokeLaw} {r s : Run P}

lemma mono {K' : StrokeLaw} (hK : ∀ {motion vk sc}, K motion vk sc → K' motion vk sc)
    (h : Course K r s) : Course K' r s := by
  induction h with
  | refl r => exact .refl r
  | trans _ _ ih ih' => exact ih.trans ih'
  | modifier r m up => exact .modifier r m up
  | tap r => exact .tap r
  | tapRound r m => exact .tapRound r m
  | stroke r h => exact .stroke r (hK h)
  | unit r unit up => exact .unit r unit up
  | mouse r flags data point => exact .mouse r flags data point
  | pause r hp => exact .pause r hp
  | lock vk hl _ ih => exact .lock vk hl ih

lemma keyPause (h : Course K r s) : Course K r s.keyPause :=
  h.trans (.pause s (s.backend.keyPause_suits _))

lemma mousePause (h : Course K r s) : Course K r s.mousePause :=
  h.trans (.pause s (s.backend.mousePause_suits _))

lemma pressPause (h : Course K r s) : Course K r s.pressPause :=
  h.trans (.pause s (s.backend.keyPause_suits _))

lemma iterate {f : Run P → Run P} (hf : ∀ s, Course K s (f s)) (n : Nat) :
    Course K r (Nat.repeat f n r) := by
  induction n with
  | zero => exact .refl r
  | succ n ih => exact ih.trans (hf _)

lemma iterate_of_le {f : Run P → Run P} (hf : ∀ s, Course K s (f s)) {m n : Nat} (h : m ≤ n) :
    Course K (Nat.repeat f m r) (Nat.repeat f n r) := by
  induction h with
  | refl => exact .refl _
  | step _ ih => exact ih.trans (hf _)

lemma foldl {α : Type} {f : Run P → α → Run P} {l : List α}
    (hf : ∀ s, ∀ a ∈ l, Course K s (f s a)) : Course K r (l.foldl f r) := by
  induction l generalizing r with
  | nil => exact .refl r
  | cons a l ih =>
    exact (hf r a (by simp)).trans (ih fun s b hb => hf s b (by simp [hb]))

lemma reconcile (h : Course K r s) (desired : Mask) (w : Disguise) :
    Course K r (s.reconcile desired w) :=
  h.trans (s.reconcile_invariant (fun t m up ht => ht.trans (.modifier t m up))
    (fun t ht => ht.trans (.tap t)) (fun t m ht => ht.trans (.tapRound t m))
    (fun _ ht => ht.pressPause) (.refl s) desired w)

lemma dropAdded (h : Course K r s) (mods : Mask) : Course K r (s.dropAdded mods) := by
  unfold Run.dropAdded
  dsimp only
  split_ifs
  · exact h.reconcile _ _
  · exact h.reconcile _ _
  · exact h

lemma sendKeyOnce {motion : KeyMotion} {vk : VirtualKey} {sc : ScanCode} (hK : K motion vk sc)
    (h : Course K r s) (mods : Mask) : Course K r (s.sendKeyOnce vk sc mods motion) :=
  (((h.reconcile _ _).trans (.stroke _ hK)).keyPause).dropAdded mods

lemma sendKey {motion : KeyMotion} {vk : VirtualKey} {sc : ScanCode} (hK : K motion vk sc)
    (mods : Mask) (turns : Nat) : Course K r (r.sendKey vk sc mods motion turns) :=
  .iterate (fun s => (Course.refl s).sendKeyOnce hK mods) turns

lemma turnModifier {action : KeyAction} {vk : VirtualKey} {sc : ScanCode}
    (hK : K action.motion vk sc) (m : Modifier) : Course K r (r.turnModifier m vk sc action) := by
  unfold Run.turnModifier
  dsimp only
  refine (Course.trans ?_ (.stroke _ hK)).keyPause
  have h : ∀ d, Course K r (r.reconcile d .both) := fun d => (Course.refl r).reconcile d .both
  split_ifs
  · exact (h _).trans (.tap _)
  · exact h _

lemma emitUnitMotion (s : Run P) (motion : KeyMotion) (unit : UInt16) :
    Course K s (s.emitUnitMotion motion unit) := by
  cases motion with
  | down => exact .unit s unit false
  | up => exact .unit s unit true
  | downUp => exact (Course.unit s unit false).trans (.unit _ unit true)

lemma sendCodePoint (cp : Nat) (motion : KeyMotion) :
    Course K r (r.sendCodePoint cp motion) := by
  unfold Run.sendCodePoint
  split_ifs
  · exact (((Course.refl r).reconcile _ _).trans
      (.foldl fun s u _ => emitUnitMotion s motion u)).keyPause
  · exact .refl r

end Course

/-- The strokes that a character may come to. -/
structure CharStrokes (P : Type) [Platform P] (K : StrokeLaw) (motion : KeyMotion) : Prop where
  enter : K motion .enter 0
  tab : K motion .tab 0
  chord : ∀ (p : P) c l k, Platform.chord? p c l = some k → K motion k.vk 0

/-- All strokes that a token may come to meet the law, whatever the platform answers by then. -/
def Strokes (P : Type) [Platform P] (K : StrokeLaw) : Token → Prop
  | .char _ => CharStrokes P K .downUp
  | .key (.char _) a => CharStrokes P K a.motion
  | .key (.named (.key vk sc)) a =>
    ∀ (p : P) l, K a.motion (if vk = 0 then Platform.keyAt p sc l else vk) sc
  | .asc ds =>
    ∀ c ∈ ds.toList, K .downUp (VirtualKey.numpad0 + (c.toNat - '0'.toNat).toUInt8) 0
  | _ => True

namespace Course

variable {K : StrokeLaw} {r s : Run P}

lemma sendChar {motion : KeyMotion} (hK : CharStrokes P K motion) (s : Run P) (c : Char) :
    Course K s (s.sendChar c motion) := by
  unfold Run.sendChar
  split_ifs
  · exact sendKey hK.enter _ 1
  · exact sendKey hK.tab _ 1
  · exact sendCodePoint _ _
  · split
    · rename_i k hk
      exact sendKey (hK.chord _ _ _ _ hk) _ 1
    · exact sendCodePoint _ _

lemma sendAsc {digits : String} (hK : Strokes P K (.asc digits)) (r : Run P) :
    Course K r (r.sendAsc digits) := by
  have hd : ∀ s : Run P, ∀ c ∈ digits.toList, Course K s (s.typeDigit c) := fun s c hc =>
    (Course.stroke s (hK c hc)).keyPause
  have htyped : ∀ s q : Run P, Course K s q →
      Course K s (digits.toList.foldl typeDigit (q.reconcile (q.wanted ∪ {lalt}) .upOnly)) :=
    fun s q hq => (hq.reconcile _ _).trans (.foldl hd)
  unfold Run.sendAsc
  dsimp only
  split_ifs
  · exact (Course.lock .numLock rfl
      ((htyped _ _ (Course.refl _).keyPause).reconcile _ _)).keyPause
  · exact (htyped r r (.refl r)).reconcile _ _

lemma moveTo (s : Run P) (p : Point) : Course K s (s.moveTo p) := (Course.mouse s _ _ _).mousePause

lemma moveMouse (x y : Int) (speed : Option Int) (relative : Bool) :
    Course K r (r.moveMouse x y speed relative) := by
  unfold Run.moveMouse
  dsimp only
  split_ifs
  · exact moveTo r _
  · exact .foldl fun s p _ => moveTo s p

lemma clickButton (b : Button) (count : Nat) (action : ClickAction) :
    Course K r (r.clickButton b count action) := by
  unfold Run.clickButton
  cases action with
  | down => exact (Course.mouse r _ _ _).mousePause
  | up => exact (Course.mouse r _ _ _).mousePause
  | downUp =>
    refine .iterate (fun s => ?_) count
    exact ((Course.mouse s _ _ _).mousePause.trans (.mouse _ _ _ _)).mousePause

end Course

/-! ### Courses as flows -/

variable {K : StrokeLaw}

/-- All events that a course may be made of, on any platform, are such that `Q`. -/
structure Admits (P : Type) [Platform P] (Q : EventRecord → Prop) (K : StrokeLaw)
    (maskKey : VirtualKey × ScanCode) : Prop where
  modifier : ∀ (s : Run P) (m : Modifier) up, Q (s.keyEvent m.key m.scan up s.tag)
  mask : ∀ (s : Run P) up, Q (s.keyEvent maskKey.1 maskKey.2 up .ignore)
  stroke : ∀ (s : Run P) motion vk sc, K motion vk sc → ∀ up, Q (s.keyEvent vk sc up s.tag)
  lock : ∀ (s : Run P) vk, vk.isLock = true → ∀ up, Q (s.keyEvent vk 0 up s.tag)
  unit : ∀ unit up info, Q (.key ⟨.packet, unit, up, false, true, info⟩)
  mouse : ∀ m, Q (.mouse m)

/-- A course is a flow of the events it may be made of. -/
theorem Course.flows {Q : EventRecord → Prop} {maskKey : VirtualKey × ScanCode}
    (hQ : Admits P Q K maskKey) {r s : Run P} (h : Course K r s) (hr : r.maskKey = maskKey) :
    Flows Q r s := by
  have hdown : ∀ s : Run P, s.maskKey = maskKey → Flows Q s s.maskDown := fun s hs =>
    (Flows.refl s).emit (hs ▸ hQ.mask s false)
  have hup : ∀ s : Run P, s.maskKey = maskKey → Flows Q s s.maskUp := fun s hs =>
    (Flows.refl s).emit (hs ▸ hQ.mask s true)
  have hmod : ∀ (s : Run P) m up, Flows Q s (s.emitModifier m up) := fun s m up =>
    (Flows.refl s).emit (hQ.modifier s m up)
  induction h with
  | refl r => exact .refl r
  | trans _ _ ih ih' => exact (ih hr).trans (ih' ((ih hr).maskKey.trans hr))
  | modifier r m up => exact hmod r m up
  | tap r => exact (hdown r hr).trans (hup _ ((hdown r hr).maskKey.trans hr))
  | tapRound r m =>
    have h := (hdown r hr).trans (hmod _ m false)
    exact h.trans (hup _ (h.maskKey.trans hr))
  | stroke r hk => exact (Flows.refl r).strike _ fun t => hQ.stroke t _ _ _ hk
  | unit r unit up => exact (Flows.refl r).emit (hQ.unit unit up r.tag)
  | mouse r flags data point => exact (Flows.refl r).emit (hQ.mouse _)
  | pause r hp => exact (Flows.refl r).pause hp
  | @lock r s vk hl _ ih =>
    have h : Flows Q r (r.strike .downUp vk 0) :=
      (Flows.refl r).strike _ fun t => hQ.lock t vk hl
    exact (h.trans (ih (h.maskKey.trans hr))).strike _ fun t => hQ.lock t vk hl

/-- With no condition on the events every course is a flow. -/
lemma Course.flows_any {r s : Run P} (h : Course K r s) : Flows (fun _ => True) r s :=
  h.flows ⟨by simp, by simp, by simp, by simp, by simp, by simp⟩ rfl

theorem Course.still {r s : Run P} (h : Course K r s) : s.still = r.still := h.flows_any.still

end Run

end KeySynth
