import KeySynth.Config.Read
import KeySynth.Config.Write

/-!
Configuration files: read, or written with the defaults where there is none.
-/

namespace KeySynth

/-- What is found under a path. -/
inductive FileEntry where
  | file (bytes : ByteArray)
  | directory
  /-- Nothing; where a file cannot be put there either, the reason. -/
  | nothing (obstacle : Option FileFault)

namespace Config

variable (read : Toml.Reader)

/-- The configuration in a file that should be there. -/
def load : FileEntry → Except Fault Config
  | .file bytes => ofBytes read bytes
  | .directory => .error (.file .directory)
  | .nothing f => .error (.file (f.getD .missing))

/-- A configuration, and the text to be put where there was no file. -/
structure Loaded where
  config : Except Fault Config
  written : Option String

/-- The configuration in a file, or the defaults, which are then written down. -/
def loadOrCreate : FileEntry → Loaded
  | .nothing none => ⟨.ok {}, some (render {})⟩
  | .nothing (some f) => ⟨.error (.file f), none⟩
  | found => ⟨load read found, none⟩

end Config

end KeySynth
