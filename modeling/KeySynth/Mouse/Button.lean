import KeySynth.Fault

/-!
Mouse buttons and wheel directions, with the names they are asked for by.
-/

namespace KeySynth

inductive Button where
  | left | right | middle | x1 | x2 | wheelUp | wheelDown | wheelLeft | wheelRight
deriving DecidableEq, Repr

namespace Button

def isWheel : Button → Bool
  | wheelUp | wheelDown | wheelLeft | wheelRight => true
  | _ => false

/-- The name a button is reported by. -/
def name : Button → String
  | left => "Left" | right => "Right" | middle => "Middle" | x1 => "X1" | x2 => "X2"
  | wheelUp => "WheelUp" | wheelDown => "WheelDown"
  | wheelLeft => "WheelLeft" | wheelRight => "WheelRight"

/-- The names a button answers to, in capitals. -/
def names : List (String × Button) :=
  [("LBUTTON", left), ("LEFT", left), ("L", left),
   ("RBUTTON", right), ("RIGHT", right), ("R", right),
   ("MBUTTON", middle), ("MIDDLE", middle), ("M", middle),
   ("XBUTTON1", x1), ("X1", x1), ("XBUTTON2", x2), ("X2", x2),
   ("WHEELUP", wheelUp), ("WU", wheelUp), ("WHEELDOWN", wheelDown), ("WD", wheelDown),
   ("WHEELLEFT", wheelLeft), ("WL", wheelLeft), ("WHEELRIGHT", wheelRight), ("WR", wheelRight)]

/-- The button with a name written in capitals. -/
def ofCapitals? (upper : String) : Option Button := names.lookup upper

/-- The button with a name in letters of either case. -/
def parse (name : String) : Except Fault Button :=
  match ofCapitals? name.toUpper with
  | some b => .ok b
  | none => .error (.invalidValue .button name)

end Button

end KeySynth
