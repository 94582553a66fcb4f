/-!
What can go wrong, and how it is reported.
-/

namespace KeySynth

/-- The values that are checked when they are set. -/
inductive Parameter where
  | sendMode | coordMode | button | sendLevel | menuMaskKey | count
deriving DecidableEq, Repr

def Parameter.name : Parameter → String
  | sendMode => "send_mode" | coordMode => "coord_mode" | button => "button"
  | sendLevel => "send_level" | menuMaskKey => "menu_mask_key" | count => "count"

/-- Why a file could not be read or written. -/
inductive FileFault where
  | missing | notText | directory | notFolder | denied | nameTooLong
deriving DecidableEq, Repr

def FileFault.message : FileFault → String
  | missing => "No such file or directory (os error 2)"
  | notText => "stream did not contain valid UTF-8"
  | directory => "Is a directory (os error 21)"
  | notFolder => "Not a directory (os error 20)"
  | denied => "Permission denied (os error 13)"
  | nameTooLong => "File name too long (os error 36)"

inductive Fault where
  /-- A code point directive that names no code point. -/
  | invalidUnicode (directive : String)
  | invalidValue (parameter : Parameter) (value : String)
  | unknownTrigger (id : UInt32)
  | platform (reason : String)
  | config (reason : String)
  | file (cause : FileFault)
deriving DecidableEq, Repr

def Fault.message : Fault → String
  | invalidUnicode d => "Invalid unicode directive: " ++ d
  | invalidValue p v => "Invalid value for " ++ p.name ++ ": " ++ v
  | unknownTrigger id => "Unknown trigger id: " ++ toString id
  | platform reason => "Platform error: " ++ reason
  | config reason => "Configuration error: " ++ reason
  | file cause => "I/O error: " ++ cause.message

end KeySynth
