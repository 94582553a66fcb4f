import KeySynth.Fault
import KeySynth.Ledger.Basic
import KeySynth.Trigger.Basic

/-!
The registry of triggers: which of them may run, now or later.
-/

namespace KeySynth

/-- An admission that waits in the queue. -/
structure Pending where
  id : TriggerId
  variant : Nat
  info : Tag
deriving DecidableEq, Repr

structure Registry where
  /-- The registered triggers, each id once. -/
  triggers : List (TriggerId × Trigger)
  nextId : TriggerId
  maxThreads : Nat
  maxThreadsPerTrigger : Nat
  /-- The priorities of the running threads, the oldest first. -/
  running : List Int
  pending : List Pending
deriving DecidableEq, Repr

/-- What the conditions answer while a trigger is fired: at question `q`, whether condition `n`
holds. Two questions about one condition may get different answers. -/
abbrev Answers := Nat → Nat → Bool

/-- How one of the gates answers a variant that may fire. -/
inductive Gate where
  | launch | runAgain | queue
deriving DecidableEq, Repr

namespace Registry

def defaultMaxThreads : Nat := 10
def defaultMaxThreadsPerTrigger : Nat := 1

/-- An empty registry; each limit is at least one. -/
def new (maxThreads perTrigger : Nat) : Registry :=
  ⟨[], 0, max maxThreads 1, max perTrigger 1, [], []⟩

variable (r : Registry)

def size : Nat := r.triggers.length

def get? (id : TriggerId) : Option Trigger := r.triggers.lookup id

/-- The trigger with the registry's limit for the variants that have none. -/
def limited (t : Trigger) : Trigger :=
  { t with
    variants := t.variants.map fun v =>
      { v with maxThreads := some (v.maxThreads.getD r.maxThreadsPerTrigger) } }

/-- Registers a trigger under the next id. If the id is still in use the trigger is dropped. -/
def add (t : Trigger) : TriggerId × Registry :=
  (r.nextId,
   { r with
     triggers :=
      if (r.get? r.nextId).isSome then r.triggers
      else r.triggers ++ [(r.nextId, r.limited t)]
     nextId := r.nextId + 1 })

def remove (id : TriggerId) : Except Fault (Trigger × Registry) :=
  match r.get? id with
  | none => .error (.unknownTrigger id)
  | some t => .ok (t, { r with triggers := r.triggers.filter (·.1 != id) })

/-- Changes one variant. -/
def modifyVariant (id : TriggerId) (i : Nat) (f : Variant → Variant) : Registry :=
  { r with
    triggers := r.triggers.map fun (k, t) =>
      if k = id then (k, { t with variants := t.variants.modify i f }) else (k, t) }

/-- The variant to fire: the one asked for if it may fire, else the first that may. The hint is
question 0, variant `i` question `i + 1`. -/
def choose (variants : List Variant) (eligible : Nat → Variant → Bool) (hint : Option Nat) :
    Option Nat :=
  (hint.filter fun i => variants[i]?.any (eligible 0)).or
    (variants.zipIdx.findIdx? fun (v, i) => eligible (i + 1) v)

/-- Whether a variant may run now. The limit on all threads comes first, then the variant's own,
then the priority of the latest thread. -/
def gate (v : Variant) : Gate :=
  if r.maxThreads ≤ r.running.length then .queue
  else if v.maxThreads.getD r.maxThreadsPerTrigger ≤ v.running then .runAgain
  else if r.running.getLast?.any (v.priority < ·) then .queue
  else .launch

/-- Starts a thread of a variant. -/
def launch (id : TriggerId) (i : Nat) (v : Variant) (ledger : Ledger) (now : Nat) :
    Admission × Registry × Ledger :=
  let r := r.modifyVariant id i fun v => { v with running := v.running + 1 }
  (.launched id i, { r with running := r.running ++ [v.priority] }, ledger.launched now)

/-- What becomes of input that fired variant `i`. -/
def respond (id : TriggerId) (i : Nat) (v : Variant) (info : Tag) (ledger : Ledger) (now : Nat) :
    Admission × Registry × Ledger :=
  match r.gate v with
  | .launch => r.launch id i v ledger now
  | .runAgain =>
    (.runAgainAfterFinished, r.modifyVariant id i ({ · with runAgain := true }), ledger)
  | .queue => (.queued, { r with pending := r.pending ++ [⟨id, i, info⟩] }, ledger)

/-- Decides on input with the tag `info` that fired a trigger, perhaps through the variant
`hint`. -/
def fireUnder (answers : Answers) (id : TriggerId) (info : Tag) (hint : Option Nat)
    (ledger : Ledger) (now : Nat) : Except Fault (Admission × Registry × Ledger) :=
  match r.get? id with
  | none => .error (.unknownTrigger id)
  | some t =>
    match choose t.variants (fun q v => v.eligible (answers q) info) hint with
    | none => .ok (.ignored, r, ledger)
    | some i =>
      match t.variants[i]? with
      | none => .ok (.ignored, r, ledger)
      | some v => .ok (r.respond id i v info ledger now)

/-- The same under conditions that do not change meanwhile. -/
def fire (conditions : Nat → Bool) :=
  r.fireUnder fun _ => conditions

/-- The list without the last `p` in it. -/
def eraseLast (p : Int) (ps : List Int) : List Int := (ps.reverse.erase p).reverse

/-- A thread is finished. A run that was asked for meanwhile starts at once. -/
def finish (id : TriggerId) (i : Nat) (ledger : Ledger) (now : Nat) :
    Except Fault (Option Admission × Registry × Ledger) :=
  match r.get? id with
  | none => .error (.unknownTrigger id)
  | some t =>
    match t.variants[i]? with
    | none => .ok (none, r, ledger)
    | some v =>
      let r := r.modifyVariant id i fun v => { v with running := v.running - 1 }
      let r := { r with running := eraseLast v.priority r.running }
      if v.runAgain then
        let r := r.modifyVariant id i ({ · with runAgain := false })
        let (a, r, ledger) := r.launch id i v ledger now
        .ok (some a, r, ledger)
      else .ok (none, r, ledger)

/-- Fires the queued entries in turn, the `n`-th under `answers n`; entries of triggers that are
gone vanish. -/
def offer (now : Nat) :
    (answers : Nat → Answers) → List Pending → Registry → Ledger →
      List Admission × Registry × Ledger
  | _, [], r, ledger => ([], r, ledger)
  | answers, p :: ps, r, ledger =>
    match r.fireUnder (answers 0) p.id p.info (some p.variant) ledger now with
    | .error _ => offer now (answers <| · + 1) ps r ledger
    | .ok (a, r, ledger) =>
      let (as, r, ledger) := offer now (answers <| · + 1) ps r ledger
      (a :: as, r, ledger)

/-- Offers what is in the queue once more; what is still held back is queued again. -/
def drainUnder (answers : Nat → Answers) (ledger : Ledger) (now : Nat) :
    List Admission × Registry × Ledger :=
  offer now answers r.pending { r with pending := [] } ledger

/-- The same under conditions that do not change meanwhile. -/
def drain (conditions : Nat → Bool) :=
  r.drainUnder fun _ _ => conditions

end Registry

end KeySynth
