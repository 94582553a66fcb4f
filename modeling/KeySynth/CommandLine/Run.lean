import KeySynth.CommandLine.Request
import KeySynth.Config.File
import KeySynth.Desktop.Basic
import KeySynth.Engine.Send
import KeySynth.Event.Display

/-!
What a command line does: it sends a text to a recording desktop and shows what was recorded.
-/

namespace KeySynth.CommandLine

/-- What is left behind: the exit code, the output and perhaps a new configuration file. -/
structure Outcome where
  code : UInt32
  output : List String
  errors : List String
  written : Option String

/-- What went wrong, and with what. -/
structure Failure where
  doing : Option String
  fault : Fault

/-- The texts of a failure, each the reason of the one before. -/
def Failure.chain (f : Failure) : List String :=
  let doing := f.doing.toList
  match f.fault with
  | .file cause => doing ++ [f.fault.message, cause.message]
  | fault => doing ++ [fault.message]

/-- A text after a prefix; its further lines are indented. -/
def indented (first rest : String) (text : String) : List String :=
  match Text.split (· == '\n') text.toList with
  | [] => []
  | l :: ls => (first ++ String.ofList l) :: ls.map fun l => rest ++ String.ofList l

/-- Reasons, numbered if there are several. -/
def reasons : List String → List String
  | [r] => indented "    " "    " r
  | rs => rs.zipIdx.flatMap fun (r, n) => indented ("    " ++ toString n ++ ": ") "       " r

/-- The report of a failure. -/
def Failure.report (f : Failure) : List String :=
  match f.chain with
  | [] => []
  | [head] => indented "Error: " "" head
  | head :: rest => indented "Error: " "" head ++ ["", "Caused by:"] ++ reasons rest

def failed (f : Failure) (written : Option String) : Outcome := ⟨1, [], f.report, written⟩

/-- Sends as configured; the events are shown if all went well. -/
def sendWith (c : Config) (i : Invocation) : Except Failure (List String) :=
  match Engine.ofConfig Desktop.new c with
  | .error f => .error ⟨none, f⟩
  | .ok e =>
    match e.send i.text { raw := i.raw, mode := i.mode } with
    | (.error f, _) => .error ⟨some "send failed", f⟩
    | (.ok _, e) => .ok (e.platform.log.events.toList.map EventRecord.display)

/-- Sends with the configuration found. -/
def Invocation.run (read : Toml.Reader) (i : Invocation) (found : FileEntry) : Outcome :=
  let loaded := Config.loadOrCreate read found
  match loaded.config with
  | .error f => failed ⟨some ("failed to load " ++ i.config), f⟩ loaded.written
  | .ok c =>
    match sendWith c i with
    | .error f => failed f loaded.written
    | .ok lines => ⟨0, lines, [], loaded.written⟩

def versionLine : String := "keysend 0.1.0"

def usage : String := "Usage: keysend [OPTIONS] <TEXT>"

def helpLines : List String :=
  ["Synthesize keyboard and mouse input",
   "",
   usage,
   "",
   "Arguments:",
   "  <TEXT>  Text in the send mini-language",
   "",
   "Options:",
   "      --config <PATH>          Path to the config file [default: Config.toml]",
   "      --mode <MODE>            Send mode (Event, Input, Play, InputThenPlay)",
   "      --raw                    Treat ^+!# literally",
   "      --text                   Treat everything literally",
   "      --dry-run                Record events instead of injecting them, then print them",
   "      --log-level <LOG_LEVEL>  Log level for this crate (error|warn|info|debug|trace)",
   "  -h, --help                   Print help",
   "  -V, --version                Print version"]

/-- Answers a request; `find` looks up the path of the configuration. -/
def Request.run (read : Toml.Reader) (find : String → FileEntry) : Request → Outcome
  | .send i => i.run read (find i.config)
  | .help => ⟨0, helpLines, [], none⟩
  | .version => ⟨0, [versionLine], [], none⟩
  | .misuse m => ⟨2, [], ["error: " ++ m.message, "", usage], none⟩

/-- The path at which a request looks for its configuration. -/
def Request.path? : Request → Option String
  | .send i => some i.config
  | _ => none

end KeySynth.CommandLine
