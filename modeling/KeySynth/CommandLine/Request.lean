import KeySynth.Mode

/-!
What a command line asks for.

Arguments are taken in order. The first that is wrong ends the reading, and so does one that asks
for help or for the version.
-/

namespace KeySynth.CommandLine

/-- A text to send and how. -/
structure Invocation where
  text : String
  /-- The path of the configuration. -/
  config : String
  mode : Option SendMode
  raw : RawMode
  /-- Record only. There is nothing but a recording desktop to send to, so this is always so. -/
  dryRun : Bool
  /-- How much to log. Nothing is. -/
  logLevel : Option String
deriving DecidableEq, Repr

/-- What is wrong with a command line. -/
inductive Misuse where
  | unknown (argument : String)
  | missingValue (option : String)
  | badValue (option value : String)
  | needlessValue (option : String)
  | repeated (option : String)
  | conflict
  | missingText
deriving DecidableEq, Repr

def Misuse.message : Misuse → String
  | unknown a => "unexpected argument '" ++ a ++ "' found"
  | missingValue o => "a value is required for '" ++ o ++ "' but none was supplied"
  | badValue o v => "invalid value '" ++ v ++ "' for '" ++ o ++ "'"
  | needlessValue o => "unexpected value for '" ++ o ++ "' found; no more were expected"
  | repeated o => "the argument '" ++ o ++ "' cannot be used multiple times"
  | conflict => "the argument '--raw' cannot be used with '--text'"
  | missingText => "the following required arguments were not provided: <TEXT>"

inductive Request where
  | send (i : Invocation)
  | help
  | version
  | misuse (m : Misuse)
deriving DecidableEq, Repr

inductive Flag where
  | raw | text | dryRun
deriving DecidableEq, Repr

inductive Setting where
  | config | mode | logLevel
deriving DecidableEq, Repr

/-- An argument by its look; options may have a value attached. -/
inductive Argument where
  | text (s : String)
  | help
  | version
  | flag (f : Flag) (value : Option String)
  | setting (s : Setting) (value : Option String)
  | unknown

def Flag.name : Flag → String
  | raw => "--raw" | text => "--text" | dryRun => "--dry-run"

def Setting.name : Setting → String
  | config => "--config" | mode => "--mode" | logLevel => "--log-level"

/-- A word that starts with a dash and goes on is an option. -/
def isOption : List Char → Bool
  | '-' :: _ :: _ => true
  | _ => false

/-- The value of a long option, after an equals sign. -/
def attached : List Char → Option String
  | '=' :: v => some (String.ofList v)
  | _ => none

def Argument.ofWord (word : String) : Argument :=
  match word.toList with
  | '-' :: '-' :: cs =>
    let value := attached (cs.dropWhile (· != '='))
    match String.ofList (cs.takeWhile (· != '=')), value with
    | "help", none => .help
    | "version", none => .version
    | "raw", v => .flag .raw v
    | "text", v => .flag .text v
    | "dry-run", v => .flag .dryRun v
    | "config", v => .setting .config v
    | "mode", v => .setting .mode v
    | "log-level", v => .setting .logLevel v
    | _, _ => .unknown
  | '-' :: 'h' :: _ => .help
  | '-' :: 'V' :: _ => .version
  | '-' :: _ :: _ => .unknown
  | _ => .text word

/-- The arguments so far. -/
structure Draft where
  text : Option String := none
  config : Option String := none
  mode : Option SendMode := none
  logLevel : Option String := none
  flags : List Flag := []

namespace Draft

variable (d : Draft)

def addText (s : String) : Except Misuse Draft :=
  if d.text.isSome then .error (.unknown s) else .ok { d with text := some s }

def addFlag (f : Flag) : Except Misuse Draft :=
  if f ∈ d.flags then .error (.repeated f.name) else .ok { d with flags := f :: d.flags }

def addSetting (s : Setting) (v : String) : Except Misuse Draft :=
  match s with
  | .config =>
    if d.config.isSome then .error (.repeated s.name)
    else if v.isEmpty then .error (.missingValue s.name)
    else .ok { d with config := some v }
  | .mode =>
    if d.mode.isSome then .error (.repeated s.name)
    else
      match SendMode.ofName? v with
      | .ok m => .ok { d with mode := some m }
      | .error _ => .error (.badValue s.name v)
  | .logLevel =>
    if d.logLevel.isSome then .error (.repeated s.name)
    else .ok { d with logLevel := some v }

def defaultConfig : String := "Config.toml"

/-- The request once all arguments are read. -/
def finish : Request :=
  if Flag.raw ∈ d.flags ∧ Flag.text ∈ d.flags then .misuse .conflict
  else
    match d.text with
    | none => .misuse .missingText
    | some text =>
      .send
        { text
          config := d.config.getD defaultConfig
          mode := d.mode
          raw :=
            if Flag.text ∈ d.flags then .rawText
            else if Flag.raw ∈ d.flags then .raw
            else .notRaw
          dryRun := Flag.dryRun ∈ d.flags
          logLevel := d.logLevel }

end Draft

/-- Goes on with a draft unless it is spoilt. -/
def andThen (d : Except Misuse Draft) (next : Draft → Request) : Request :=
  match d with
  | .ok d => next d
  | .error m => .misuse m

/-- Words after `--` are text whatever they look like. -/
def readTexts (d : Draft) : List String → Request
  | [] => d.finish
  | w :: ws => andThen (d.addText w) fun d => readTexts d ws

def read (d : Draft) : List String → Request
  | [] => d.finish
  | w :: ws =>
    if w = "--" then readTexts d ws
    else
      match Argument.ofWord w, ws with
      | .text s, ws => andThen (d.addText s) fun d => read d ws
      | .help, _ => .help
      | .version, _ => .version
      | .flag f none, ws => andThen (d.addFlag f) fun d => read d ws
      | .flag f (some _), _ => .misuse (.needlessValue f.name)
      | .setting s (some v), ws => andThen (d.addSetting s v) fun d => read d ws
      | .setting s none, v :: ws =>
        if isOption v.toList then .misuse (.missingValue s.name)
        else andThen (d.addSetting s v) fun d => read d ws
      | .setting s none, [] => .misuse (.missingValue s.name)
      | .unknown, _ => .misuse (.unknown w)

/-- The request of the words of a command line. -/
def Request.ofWords (words : List String) : Request := read {} words

end KeySynth.CommandLine
