import KeySynth.Proofs.Engine.Journal
import KeySynth.Proofs.Engine.Recording

/-!
The tape of an engine that sends event by event.

The tape has every event that a desktop has taken since an engine was made for it, the latest first,
each with what it comes from: a token of a text, the rest of a send, or somebody else. It leads to
the keys that are down.
-/

namespace KeySynth

open Modifier

/-- What an event comes from. -/
inductive Author where
  | outside
  /-- A token, of a text that may be blind. -/
  | token (blind : Bool) (t : Token)
  /-- What a send does before its first token and after its last. -/
  | frame
deriving DecidableEq

structure Entry where
  author : Author
  event : EventRecord

/-- Where a tape leads from `d`. -/
def Desktop.along (d : Desktop) (tape : List Entry) : Desktop :=
  tape.foldr (fun en d => d.apply en.event) d

lemma Desktop.along_append (d : Desktop) (u v : List Entry) :
    d.along (u ++ v) = (d.along v).along u := List.foldr_append

lemma Desktop.keys_along_congr {d d' : Desktop} (h : d.keys = d'.keys) (tape : List Entry) :
    (d.along tape).keys = (d'.along tape).keys := by
  induction tape with
  | nil => exact h
  | cons en tape ih => exact keys_apply_congr ih en.event

namespace Run

variable {P : Type} [Platform P] {r s t : Run P}

omit [Platform P] in
/-- What the second run has sent since the first. -/
def entries (a : Author) (r s : Run P) : List Entry :=
  (s.journal.take (s.journal.length - r.journal.length)).map fun em => ⟨a, em.event⟩

omit [Platform P] in
lemma entries_eq {a : Author} {news : List Emission} (h : s.journal = news ++ r.journal) :
    r.entries a s = news.map fun em => ⟨a, em.event⟩ := by
  simp [entries, h]

omit [Platform P] in
lemma author_of_mem_entries {a : Author} {en : Entry} (h : en ∈ r.entries a s) : en.author = a := by
  obtain ⟨em, -, rfl⟩ := List.mem_map.mp h
  rfl

omit [Platform P] in
lemma event_entries {a : Author} (h : r.journal <:+ s.journal) :
    (r.entries a s).map (·.event) ++ r.journal.map (·.event) = s.journal.map (·.event) := by
  obtain ⟨news, hnews⟩ := h
  rw [entries_eq hnews.symm, ← hnews, List.map_map, List.map_append]
  rfl

/-- What the tokens of a text have sent. -/
def told (r : Run P) : List Token → List Entry
  | [] => []
  | t :: ts =>
    if r.fault.isSome then [] else (r.act t).told ts ++ r.entries (.token r.blind t) (r.act t)

lemma event_told (r : Run P) (ts : List Token) :
    (r.told ts).map (·.event) ++ r.journal.map (·.event) =
      (r.interpret ts).journal.map (·.event) := by
  induction ts generalizing r with
  | nil => rfl
  | cons t ts ih =>
    by_cases hf : r.fault.isSome = true
    · rw [r.interpret_of_fault hf, told, if_pos hf]
      rfl
    · have hs : r.interpret (t :: ts) = (r.act t).interpret ts :=
        congrArg (·.interpret ts) (if_neg hf : r.step t = r.act t)
      rw [told, if_neg hf, hs, ← ih, List.map_append, List.append_assoc,
        event_entries (journal_act t)]

/-- An invariant of runs and tapes that each token keeps is kept by a text. -/
theorem told_induction {I : List Entry → Run P → Prop} {tape : List Entry}
    (hact : ∀ tape (r : Run P) t, I tape r →
      I (r.entries (.token r.blind t) (r.act t) ++ tape) (r.act t))
    {r : Run P} (hr : I tape r) (ts : List Token) : I (r.told ts ++ tape) (r.interpret ts) := by
  induction ts generalizing r tape with
  | nil => exact hr
  | cons t ts ih =>
    by_cases hf : r.fault.isSome = true
    · rw [r.interpret_of_fault hf, told, if_pos hf]
      exact hr
    · have hs : r.interpret (t :: ts) = (r.act t).interpret ts :=
        congrArg (·.interpret ts) (if_neg hf : r.step t = r.act t)
      rw [told, if_neg hf, hs, List.append_assoc]
      exact ih (hact _ _ _ hr)

end Run

namespace Engine

section

variable {P : Type} [Platform P] (e : Engine P) (ts : List Token) (o : SendOptions)

/-- What a send has sent when its tokens `us` are over. -/
def tapeUpTo (us : List Token) : List Entry :=
  (e.opened ts o).storeCapsLock.told us ++
    (e.opened ts o).entries .frame (e.opened ts o).storeCapsLock

/-- What a send has sent. -/
def tape : List Entry :=
  (e.upTo ts o ts).entries .frame (e.sendRun ts o) ++ e.tapeUpTo ts o ts

lemma journal_storeCapsLock :
    (e.opened ts o).journal <:+ (e.opened ts o).storeCapsLock.journal :=
  (e.opened ts o).flows_storeCapsLock.journal_suffix

lemma event_tapeUpTo (us : List Token) :
    (e.tapeUpTo ts o us).map (·.event) = (e.upTo ts o us).journal.map (·.event) := by
  have h0 : (e.opened ts o).journal = [] := rfl
  have hstore := Run.event_entries (a := .frame) (e.journal_storeCapsLock ts o)
  rw [h0, List.map_nil, List.append_nil] at hstore
  rw [tapeUpTo, List.map_append, hstore, Run.event_told, upTo]

/-- The tape of a send has what the send has sent. -/
lemma event_tape : (e.tape ts o).map (·.event) = (e.sendRun ts o).journal.map (·.event) := by
  rw [tape, List.map_append, event_tapeUpTo]
  exact Run.event_entries (sendRun_eq e ts o ▸ Run.journal_leave _)

variable {e ts o}

/-- What a text has sent; one without tokens sends nothing. -/
def taped (e : Engine P) (text : String) (o : SendOptions) : List Entry :=
  if (Token.ofText o.raw text).isEmpty then [] else e.tape (Token.ofText o.raw text) o

end

section

variable {e : Engine Desktop} {ts us : List Token} {o : SendOptions}
  (hevent : e.backendFor o = .event) (hworks : e.platform.failing = false)
include hevent hworks

/-- What is sent event by event gets to the desktop. -/
lemma keys_of_emits {es : List EventRecord} {s : Run Desktop} {tape : List Entry}
    (hes : (e.opened ts o).Emits es s)
    (htape : tape.map (·.event) = s.journal.map (·.event)) :
    s.platform.keys = (e.platform.along tape).keys ∧ s.platform.failing = false := by
  obtain ⟨-, hfail, -, hkeys⟩ := hes.log (batch_opened_of_event hevent ts) hworks
  have hcarried : ∀ ev : EventRecord, ev.carried .event = ev := fun ev => by cases ev <;> rfl
  have hback : s.backend = .event := hes.backend.trans hevent
  have hsent : s.sent.foldl Desktop.apply e.platform = e.platform.along tape := by
    have hmap : s.sent = (tape.map (·.event)).reverse := by
      rw [htape, Run.sent, hback, ← List.map_reverse]
      simp [hcarried]
    rw [hmap, List.foldl_reverse, List.foldr_map]
    rfl
  have hnone : (e.opened ts o).sent = [] := rfl
  rw [hes.sent, hnone, List.nil_append] at hsent
  refine ⟨hkeys.trans ?_, hfail⟩
  rw [← hsent, Desktop.keys_foldl_filter]
  rfl

lemma keys_upTo :
    (e.upTo ts o us).platform.keys = (e.platform.along (e.tapeUpTo ts o us)).keys := by
  obtain ⟨es, hes⟩ := e.emits_upTo ts o us
  exact (keys_of_emits hevent hworks hes (e.event_tapeUpTo ts o us)).1

lemma keys_send (text : String) :
    (e.send text o).2.platform.keys = (e.platform.along (e.taped text o)).keys ∧
      (e.send text o).2.platform.failing = false := by
  unfold send taped
  dsimp only
  split_ifs
  · exact ⟨rfl, hworks⟩
  · obtain ⟨es, hes⟩ := e.emits_typed (Token.ofText o.raw text) o
    rw [← sendRun_of_event hevent] at hes
    exact keys_of_emits hevent hworks hes (e.event_tape _ o)

end

/-- An event of somebody else reaches the desktop. -/
def nudge (e : Engine Desktop) (k : KeyRecord) : Engine Desktop :=
  { e with platform := (e.platform.inject #[.key k]).2 }

/-- The tape of an engine that was made for `d` and has only sent event by event. -/
inductive Past (d : Desktop) : List Entry → Engine Desktop → Prop where
  | new (s : Settings) : Past d [] (.new d s)
  | outside {tape : List Entry} {e : Engine Desktop} (k : KeyRecord) :
      Past d tape e → Past d (⟨.outside, .key k⟩ :: tape) (e.nudge k)
  | send {tape : List Entry} {e : Engine Desktop} (text : String) {o : SendOptions} :
      Past d tape e → e.backendFor o = .event → Past d (e.taped text o ++ tape) (e.send text o).2

namespace Past

variable {d : Desktop} {tape : List Entry} {e : Engine Desktop}

/-- **The tape leads to the keys that are down.** -/
theorem keys (h : Past d tape e) (hd : d.failing = false) :
    e.platform.keys = (d.along tape).keys ∧ e.platform.failing = false := by
  induction h with
  | new s => exact ⟨rfl, hd⟩
  | @outside tape e k _ ih =>
    obtain ⟨hkeys, hfail⟩ := ih
    have hplatform : (e.nudge k).platform = e.platform.take .input #[.key k] := by
      change (e.platform.inject _).2 = _
      rw [Desktop.inject_works hfail]
    rw [hplatform]
    refine ⟨?_, (Desktop.failing_take ..).trans hfail⟩
    rw [Desktop.keys_take]
    exact Desktop.keys_apply_congr hkeys (.key k)
  | @send tape e text o _ hevent ih =>
    obtain ⟨hkeys, hfail⟩ := ih
    obtain ⟨hsent, hworks⟩ := keys_send hevent hfail text
    refine ⟨hsent.trans ?_, hworks⟩
    rw [Desktop.along_append]
    exact Desktop.keys_along_congr hkeys _

end Past

end Engine

end KeySynth
