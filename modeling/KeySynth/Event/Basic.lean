import KeySynth.Key.Code
import KeySynth.Event.Tag
import KeySynth.Pointer.Point

/-!
The events that are synthesized.
-/

namespace KeySynth

/-- A key going down or up. A `unicode` event carries a UTF-16 unit in place of a scan code. -/
structure KeyRecord where
  vk : VirtualKey
  sc : ScanCode
  up : Bool
  extended : Bool
  unicode : Bool
  info : Tag
deriving DecidableEq, Repr

/-- What a mouse event does. -/
structure MouseFlags where
  bits : UInt32
deriving DecidableEq, Repr

namespace MouseFlags

instance : Union MouseFlags := ⟨fun f g => ⟨f.bits ||| g.bits⟩⟩

def move : MouseFlags := ⟨0x0001⟩
def leftDown : MouseFlags := ⟨0x0002⟩
def leftUp : MouseFlags := ⟨0x0004⟩
def rightDown : MouseFlags := ⟨0x0008⟩
def rightUp : MouseFlags := ⟨0x0010⟩
def middleDown : MouseFlags := ⟨0x0020⟩
def middleUp : MouseFlags := ⟨0x0040⟩
def xDown : MouseFlags := ⟨0x0080⟩
def xUp : MouseFlags := ⟨0x0100⟩
def wheel : MouseFlags := ⟨0x0800⟩
def hwheel : MouseFlags := ⟨0x1000⟩
def absolute : MouseFlags := ⟨0x8000⟩

/-- All of `g` is set in `f`. -/
def has (f g : MouseFlags) : Bool := f.bits &&& g.bits == g.bits

/-- A move to a point of the screen. -/
def moveTo : MouseFlags := move ∪ absolute

/-- The flags with a name, in the order they are shown. -/
def named : List (MouseFlags × String) :=
  [(move, "MOVE"), (leftDown, "LEFTDOWN"), (leftUp, "LEFTUP"), (rightDown, "RIGHTDOWN"),
   (rightUp, "RIGHTUP"), (middleDown, "MIDDLEDOWN"), (middleUp, "MIDDLEUP"),
   (xDown, "XDOWN"), (xUp, "XUP"), (wheel, "WHEEL"), (hwheel, "HWHEEL"),
   (absolute, "ABSOLUTE")]

end MouseFlags

/-- A mouse event; an absolute move carries the point it goes to. -/
structure MouseRecord where
  flags : MouseFlags
  data : Int
  point : Point
  info : Tag
deriving DecidableEq, Repr

inductive EventRecord where
  | key (k : KeyRecord)
  | mouse (m : MouseRecord)
  /-- A mark in a batch that is replayed. -/
  | delay (ms : Nat)
deriving DecidableEq, Repr

namespace EventRecord

def isDelay : EventRecord → Bool
  | delay _ => true
  | _ => false

def key? : EventRecord → Option KeyRecord
  | key k => some k
  | _ => none

def mouse? : EventRecord → Option MouseRecord
  | mouse m => some m
  | _ => none

end EventRecord

end KeySynth
