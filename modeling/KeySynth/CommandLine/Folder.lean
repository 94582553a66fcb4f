import KeySynth.Config.File
import KeySynth.Text.Blank

/-!
A folder of text files without subfolders, and what paths find from inside of it.

What lies outside counts as empty, but for a few places that are there on every system.
-/

namespace KeySynth

structure Folder where
  files : List (String × String)

namespace Folder

def get? (f : Folder) (name : String) : Option String := f.files.lookup name

/-! ### Paths -/

/-- A name may have so many bytes. -/
def maxName : Nat := 255

/-- A path may have so many bytes. -/
def maxPath : Nat := 4095

/-- The steps of a path. -/
def steps (path : String) : List String :=
  (Text.split (· == '/') path.toList).map String.ofList

/-- A step that stays where it is. -/
def stays (step : String) : Bool := step = "" ∨ step = "."

/-- Why no file can be put at the end of some steps of which the first is not there; slashes at
the end ask for a folder. -/
def obstacle? (name : String) (rest : List String) : Option FileFault :=
  if rest ≠ [] ∧ rest.all (· = "") then some .directory
  else if maxName < name.utf8ByteSize then some .nameTooLong
  else if rest ≠ [] then some .missing
  else none

/-- What is found at the end of some steps. -/
def walk (f : Folder) : List String → FileEntry
  | [] => .directory
  | name :: rest =>
    if stays name then f.walk rest
    else if name = ".." then walk ⟨[]⟩ rest
    else
      match f.get? name, rest with
      | some text, [] => .file text.toUTF8
      | some _, rest => .nothing (some (if rest.all (· = "") then .directory else .notFolder))
      | none, rest => .nothing (obstacle? name rest)

/-- What is found at places that every system has. -/
def landmark? : String → Option FileEntry
  | "/dev/null" => some (.file .empty)
  | "/dev" | "/etc" | "/tmp" | "/usr" | "/var" => some .directory
  | _ => none

/-- What is found under a path. -/
def find (f : Folder) (path : String) : FileEntry :=
  if maxPath < path.utf8ByteSize then .nothing (some .nameTooLong)
  else
    match landmark? path, steps path with
    | some found, _ => found
    | none, "" :: s :: rest => walk ⟨[]⟩ (s :: rest)
    | none, ss => f.walk ss

/-- The file that a path names, if it is one of this folder. -/
def name? (path : String) : Option String :=
  match steps path with
  | "" :: _ :: _ => none
  | ss =>
    match ss.reverse with
    | name :: above => if above.all stays then some name else none
    | [] => none

/-- Puts a file under a path that leads into this folder. -/
def put (f : Folder) (path text : String) : Folder :=
  match name? path with
  | some name => ⟨(name, text) :: f.files.filter (·.1 != name)⟩
  | none => f

end Folder

end KeySynth
