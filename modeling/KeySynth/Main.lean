import KeySynth.CommandLine.Run
import KeySynth.Toml.Document

/-!
The program: command line in, recorded events out.
-/

namespace KeySynth.CommandLine

/-- Why a file could not be reached. -/
def fileFault : IO.Error → FileFault
  | .permissionDenied .. => .denied
  | .inappropriateType _ code _ => if code = 21 then .directory else .notFolder
  | .invalidArgument _ code _ => if code = 36 then .nameTooLong else .missing
  | _ => .missing

/-- What is found under a path. Where nothing is, only writing tells whether a file can be put
there. -/
def lookUp (path : String) : IO FileEntry := do
  try
    return .file (← IO.FS.readBinFile path)
  catch e =>
    match fileFault e with
    | .directory => return .directory
    | .denied => return .nothing (some .denied)
    | _ => return .nothing none

/-- Writes what a request leaves behind. -/
def put (path text : String) : IO (Option FileFault) := do
  try
    IO.FS.writeFile path text
    return none
  catch e => return some (fileFault e)

end KeySynth.CommandLine

open KeySynth.CommandLine

def main (words : List String) : IO UInt32 := do
  let request := Request.ofWords words
  let found ← match request.path? with
    | some path => lookUp path
    | none => pure (.nothing none)
  let run := request.run KeySynth.Toml.read
  let outcome := run fun _ => found
  let outcome ← match request.path?, outcome.written with
    | some path, some text =>
      match ← put path text with
      | none => pure outcome
      | some f => pure (run fun _ => .nothing (some f))
    | _, _ => pure outcome
  for line in outcome.output do
    IO.println line
  for line in outcome.errors do
    IO.eprintln line
  return outcome.code
