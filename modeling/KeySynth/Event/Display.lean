import KeySynth.Event.Basic
import KeySynth.Key.Label

/-!
Events as they are shown, one to a line.
-/

namespace KeySynth

open Text

/-- The names of the flags that are set, then what is left over. -/
def MouseFlags.display (f : MouseFlags) : String :=
  let set := named.filter fun (g, _) => f.has g
  let rest := set.foldl (fun b (g, _) => b &&& ~~~g.bits) f.bits
  let words := set.map (·.2) ++ (if rest = 0 then [] else ["0x" ++ hex false 0 rest.toNat])
  "MouseFlags(" ++ (if words.isEmpty then "0x0" else " | ".intercalate words) ++ ")"

def KeyRecord.display (k : KeyRecord) : String :=
  let motion := if k.up then " up" else " down"
  if k.unicode then "unicode U+" ++ hex true 4 k.sc.toNat ++ motion
  else
    "key " ++ k.vk.label ++ " sc" ++ hex true 3 k.sc.toNat ++ motion ++
      (if k.info = Tag.ignore then " (disguise)" else "")

def MouseRecord.display (m : MouseRecord) : String :=
  "mouse " ++ m.flags.display ++ " data=" ++ toString m.data ++
    " at (" ++ toString m.point.x ++ ", " ++ toString m.point.y ++ ")"

def EventRecord.display : EventRecord → String
  | key k => k.display
  | mouse m => m.display
  | delay ms => "delay " ++ toString ms ++ "ms"

end KeySynth
