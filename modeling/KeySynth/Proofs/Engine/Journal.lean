import KeySynth.Proofs.Engine.Act

/-!
The journal only grows: what a run has sent at some point stands at the end of the journal of all
that follows.
-/

namespace KeySynth

namespace Run

variable {P : Type} [Platform P] {r : Run P}

lemma Flows.journal_suffix {Q : EventRecord → Prop} {s : Run P} (h : Flows Q r s) :
    r.journal <:+ s.journal := by
  obtain ⟨news, hj, -⟩ := h.journal
  exact ⟨news, hj.symm⟩

lemma Course.journal_suffix {K : StrokeLaw} {s : Run P} (h : Course K r s) :
    r.journal <:+ s.journal := h.flows_any.journal_suffix

lemma journal_act (t : Token) : r.journal <:+ (r.act t).journal := by
  obtain ⟨s, hs, he⟩ := r.act_eq (strokes_any t)
  obtain ⟨l, mode, base, mods, f, -, hc⟩ := s.conclude_eq t (r.explicit? t)
  rw [he, hc]
  exact hs.journal_suffix

lemma journal_interpret (ts : List Token) : r.journal <:+ (r.interpret ts).journal :=
  interpret_invariant (I := fun s => r.journal <:+ s.journal)
    (fun _ t _ hs => hs.trans (journal_act t)) (List.suffix_refl _)

lemma journal_leave (capsLock : Bool) : r.journal <:+ (r.leave capsLock).journal := by
  obtain ⟨s, p, l, b, hs, he⟩ := r.leave_eq capsLock
  rw [he]
  rcases hs with rfl | rfl
  · exact List.suffix_refl _
  · exact (r.flows_putBack capsLock).journal_suffix

end Run

namespace Engine

variable {P : Type} [Platform P] {e : Engine P} {o : SendOptions} {us vs : List Token} {t : Token}

/-- What the journal holds when a token is over stays there ... -/
lemma journal_upTo {ts : List Token} (hts : ts = us ++ t :: vs)
    (hfault : (e.upTo ts o us).fault = none) :
    ((e.upTo ts o us).act t).journal <:+ (e.upTo ts o ts).journal := by
  have hstep : (e.upTo ts o us).step t = (e.upTo ts o us).act t := if_neg (by simp [hfault])
  have hall : e.upTo ts o (us ++ t :: vs) = ((e.upTo ts o us).act t).interpret vs := by
    rw [← hstep]
    exact Run.interpret_append _ us (t :: vs)
  have hend : e.upTo ts o ts = ((e.upTo ts o us).act t).interpret vs := by
    rw [← hall, ← hts]
  rw [hend]
  exact Run.journal_interpret vs

/-- ... to the end of the send. -/
lemma journal_sendRun {ts : List Token} (hts : ts = us ++ t :: vs)
    (hfault : (e.upTo ts o us).fault = none) :
    ((e.upTo ts o us).act t).journal <:+ (e.sendRun ts o).journal := by
  rw [sendRun_eq]
  exact (journal_upTo hts hfault).trans (Run.journal_leave _)

end Engine

end KeySynth
