import KeySynth.Toml.Value

/-!
Adding to the tables of a document.

Nothing is defined twice. A header may enter any table but one that was written as a value, and
opens one that is there only because a table inside it was opened. A dotted key may enter only
tables that came from dotted keys or from headers inside them and the last one under a doubled
header, and ends in one that came from dotted keys.
-/

namespace KeySynth.Toml.Entries

def get? (es : Entries) (key : String) : Option Value := es.lookup key

/-- Puts a value in the place of the one with the key, or at the end. -/
def set (key : String) (v : Value) : Entries → Entries
  | [] => [(key, v)]
  | (k, w) :: es => if k = key then (k, v) :: es else (k, w) :: set key v es

/-- Changes the last element, if there is one. -/
def changeLast (f : Entries → Except Fault Entries) :
    List Entries → Except Fault (List Entries)
  | [] => .ok []
  | [e] => do .ok [← f e]
  | e :: es => do .ok (e :: (← changeLast f es))

/-- Changes the table at the end of the path of a header, opening tables on the way. -/
def enter (f : Entries → Except Fault Entries) :
    List String → Entries → Except Fault Entries
  | [], es => f es
  | k :: ks, es =>
    match get? es k with
    | none => do .ok (set k (.table .implied (← enter f ks [])) es)
    | some (.table .inline _) => .error (.redefined k)
    | some (.table o inner) => do .ok (set k (.table o (← enter f ks inner)) es)
    | some (.tables ts) => do .ok (set k (.tables (← changeLast (enter f ks) ts)) es)
    | some _ => .error (.redefined k)

/-- Opens a table by its own header. -/
def openTable (key : String) (es : Entries) : Except Fault Entries :=
  match get? es key with
  | none => .ok (set key (.table .header []) es)
  | some (.table .implied inner) => .ok (set key (.table .header inner) es)
  | some _ => .error (.redefined key)

/-- Opens another table under a doubled header. -/
def openElement (key : String) (es : Entries) : Except Fault Entries :=
  match get? es key with
  | none => .ok (set key (.tables [[]]) es)
  | some (.tables ts) => .ok (set key (.tables (ts ++ [[]])) es)
  | some _ => .error (.redefined key)

/-- Defines a key, dotted or not. -/
def define (v : Value) : List String → Entries → Except Fault Entries
  | [], es => .ok es
  | [k], es =>
    match get? es k with
    | none => .ok (set k v es)
    | some _ => .error (.redefined k)
  | k :: ks, es =>
    match get? es k with
    | none => do .ok (set k (.table .dotted (← define v ks [])) es)
    | some (.table .dotted inner) => do .ok (set k (.table .dotted (← define v ks inner)) es)
    | some (.table .implied inner) =>
      if ks.length = 1 then .error (.redefined k)
      else do .ok (set k (.table .implied (← define v ks inner)) es)
    | some (.tables ts) =>
      if ks.length = 1 then .error (.redefined k)
      else do .ok (set k (.tables (← changeLast (define v ks) ts)) es)
    | some _ => .error (.redefined k)

end KeySynth.Toml.Entries
