import KeySynth.Proofs.Engine.AllOrNothing
import KeySynth.Proofs.Engine.Lock
import KeySynth.Proofs.Engine.Restore
import KeySynth.Proofs.Engine.View
import KeySynth.Proofs.Script.Append

/-!
A text that breaks off.

A malformed code point ends a text. Event by event the send goes on from there as if the text had
ended in front of it: nothing that puts the modifiers and CapsLock back looks at the fault.
-/

namespace KeySynth

namespace Run

variable {P : Type} [Platform P]

lemma emit_fail (r : Run P) (f : Fault) (e : EventRecord) :
    (r.fail f).emit e = (r.emit e).fail f := by
  unfold emit dispatch yieldAfter
  cases hb : r.batch <;> simp only [fail, hb] <;> split_ifs <;> rfl

lemma pause_fail (r : Run P) (f : Fault) (p : Pause) :
    (r.fail f).pause p = (r.pause p).fail f := by
  cases p with
  | mark ms =>
    unfold pause emitMark
    cases hb : r.batch <;> simp [fail, hb]
  | none | sleep ms | wait ms => rfl

/-- No key looks at the fault. -/
lemma keyView_fail (f : Fault) : KeyView (fun r : Run P => r.fail f) where
  seen _ := rfl
  keyAt _ _ := rfl
  scanOf _ _ := rfl
  emit r k := (r.emit_fail f (.key k)).symm
  keyPause r := (r.pause_fail f _).symm
  pressPause r := (r.pause_fail f _).symm
  settle r := by
    change _ = if r.backend = .input then r.fail f else (r.fail f).pressPause
    split_ifs
    · rfl
    · exact (r.pause_fail f _).symm

lemma interpret_malformed {r : Run P} {xs : List Token} (h : (r.interpret xs).fault = none)
    (d : String) (ys : List Token) :
    r.interpret (xs ++ .invalidUnicode d :: ys) = (r.interpret xs).fail (.invalidUnicode d) := by
  have hstep : (r.interpret xs).step (.invalidUnicode d) =
      (r.interpret xs).fail (.invalidUnicode d) := if_neg (by simp [h])
  rw [interpret_append]
  exact (congrArg (fun s : Run P => s.interpret ys) hstep).trans (interpret_of_fault _ rfl ys)

end Run

namespace Engine

variable {P : Type} [Platform P] {e : Engine P} {o : SendOptions}

/-- The send goes on as if the text had ended in front of a malformed code point. -/
lemma sendRun_malformed {xs ys : List Token} {d : String} (hevent : e.backendFor o = .event)
    (hxs : xs ≠ []) (hfault : (e.upTo (xs ++ .invalidUnicode d :: ys) o xs).fault = none) :
    (e.sendRun xs o).fault = none ∧
      e.sendRun (xs ++ .invalidUnicode d :: ys) o =
        (e.sendRun xs o).fail (.invalidUnicode d) := by
  have hopened : e.opened (xs ++ .invalidUnicode d :: ys) o = e.opened xs o := by
    cases xs with
    | nil => exact absurd rfl hxs
    | cons x xs => cases x <;> rfl
  rw [upTo, hopened] at hfault
  refine ⟨(Run.fault_leave _ _).trans hfault, ?_⟩
  rw [sendRun_of_event hevent, sendRun_of_event hevent, typed, typed, upTo, hopened,
    Run.interpret_malformed hfault]
  exact ((Run.keyView_fail _).putBack _ _).symm

/-- **CapsLock is where it was** after a malformed code point, unless the text in front of it names
CapsLock. -/
theorem capsLock_malformed {e : Engine Desktop} {text : String} {xs ys : List Token} {d : String}
    (hevent : e.backendFor o = .event)
    (hts : Token.ofText o.raw text = xs ++ .invalidUnicode d :: ys) (hxs : xs ≠ [])
    (hfault : (e.upTo (Token.ofText o.raw text) o xs).fault = none)
    (hworks : e.platform.failing = false) (hup : .capsLock ∉ e.platform.down)
    (hmask : OffKey .capsLock e.maskKey.1 e.maskKey.2) (hoff : ∀ t ∈ xs, t.Off .capsLock) :
    Platform.isToggled (e.send text o).2.platform .capsLock =
      Platform.isToggled e.platform .capsLock := by
  have hd : ∀ ds, .asc ds ∈ xs → ∀ c ∈ ds.toList, c.isDigit = true := fun ds h =>
    (Token.digits_of_mem_ofText (hts ▸ List.mem_append_left _ h)).2
  rw [hts] at hfault
  have hsend : (e.send text o).2.platform = (e.sendRun xs o).platform := by
    simp [send, hts, (sendRun_malformed hevent hxs hfault).2, Run.outcome, Run.fail]
  rw [hsend]
  exact decide_eq_decide.mpr (capsLock_sendRun hworks hup hmask hoff hd)

end Engine

end KeySynth
