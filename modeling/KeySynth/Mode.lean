import KeySynth.Fault

/-!
How a send reaches the system, and how it reads its text and its coordinates.
-/

namespace KeySynth

/-- The way events travel: one at a time, in one injected batch, or in one replayed batch. -/
inductive Backend where
  | event | input | play
deriving DecidableEq, Repr

namespace Backend

def name : Backend → String
  | event => "Event" | input => "Input" | play => "Play"

def isBatch : Backend → Bool
  | event => false
  | input | play => true

end Backend

/-- The way a thread asks for; `inputThenPlay` leaves the choice to the moment of sending. -/
inductive SendMode where
  | event | input | play | inputThenPlay
deriving DecidableEq, Repr

namespace SendMode

def name : SendMode → String
  | event => "Event" | input => "Input" | play => "Play" | inputThenPlay => "InputThenPlay"

def isBatch : SendMode → Bool
  | input | play => true
  | event | inputThenPlay => false

/-- The mode with a name in letters of either case. -/
def ofName? (s : String) : Except Fault SendMode :=
  match s.toLower with
  | "event" => .ok event
  | "input" => .ok input
  | "play" => .ok play
  | "inputthenplay" => .ok inputThenPlay
  | _ => .error (.invalidValue .sendMode s)

/-- The backend a mode names, if it names one. -/
def backend? : SendMode → Option Backend
  | event => some .event
  | input => some .input
  | play => some .play
  | inputThenPlay => none

/-- The backend to send through. Hooks of another process could break into an injected batch,
so they rule it out. -/
def resolve (foreignHooks : Bool) : SendMode → Backend
  | event => .event
  | input => if foreignHooks then .event else .input
  | play => .play
  | inputThenPlay => if foreignHooks then .play else .input

end SendMode

/-- How much of a text is taken literally: nothing, the modifier symbols, or everything. -/
inductive RawMode where
  | notRaw | raw | rawText
deriving DecidableEq, Repr

/-- The origin of mouse coordinates. -/
inductive CoordMode where
  | screen | window | client
deriving DecidableEq, Repr

namespace CoordMode

def name : CoordMode → String
  | screen => "Screen" | window => "Window" | client => "Client"

/-- The mode with a name in letters of either case. -/
def ofName? (s : String) : Except Fault CoordMode :=
  match s.toLower with
  | "screen" => .ok screen
  | "window" | "relative" => .ok window
  | "client" => .ok client
  | _ => .error (.invalidValue .coordMode s)

end CoordMode

end KeySynth
