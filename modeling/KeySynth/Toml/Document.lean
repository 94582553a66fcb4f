import KeySynth.Toml.Term

/-!
Documents: lines that open a table or define a key.
-/

namespace KeySynth.Toml

inductive Statement where
  | define (key : List String) (v : Value)
  | openTable (path : List String)
  | openElement (path : List String)

/-- A document so far, and the path of the table that keys are defined in. -/
structure Draft where
  root : Entries
  path : List String

/-- The first parts of a path, and the last. -/
def splitPath : List String → Except Fault (List String × String)
  | [] => .error .badHeader
  | [k] => .ok ([], k)
  | k :: ks => do
    let (path, last) ← splitPath ks
    .ok (k :: path, last)

def Draft.add (d : Draft) : Statement → Except Fault Draft
  | .define key v => do .ok ⟨← d.root.enter (Entries.define v key) d.path, d.path⟩
  | .openTable path => do
    let (parents, last) ← splitPath path
    .ok ⟨← d.root.enter (Entries.openTable last) parents, path⟩
  | .openElement path => do
    let (parents, last) ← splitPath path
    .ok ⟨← d.root.enter (Entries.openElement last) parents, path⟩

/-- The statement at the beginning of a line. -/
def takeStatement : List Char → Except Fault (Statement × List Char)
  | '[' :: '[' :: cs => do
    match ← takeKey (skipGaps cs) with
    | (path, ']' :: ']' :: cs) => .ok (.openElement path, cs)
    | _ => .error .badHeader
  | '[' :: cs => do
    match ← takeKey (skipGaps cs) with
    | (path, ']' :: cs) => .ok (.openTable path, cs)
    | _ => .error .badHeader
  | cs => do
    match ← takeKey cs with
    | (key, '=' :: cs) =>
      let (v, cs) ← value (skipGaps cs)
      .ok (.define key v, cs)
    | _ => .error .missingEquals

/-- Adds at most so many statements. -/
def addStatements : Nat → Draft → List Char → Except Fault Draft
  | 0, d, _ => .ok d
  | n + 1, d, cs =>
    match skipLines false cs with
    | [] => .ok d
    | cs => do
      let (s, cs) ← takeStatement cs
      let cs ← lineEnd cs
      addStatements n (← d.add s) cs

/-- A byte order mark may begin a document. -/
def dropMark : List Char → List Char
  | '\uFEFF' :: cs => cs
  | cs => cs

/-- The root table of a document. -/
def parse (text : String) : Except Fault Entries := do
  let cs := dropMark text.toList
  let d ← addStatements (cs.length + 1) ⟨[], []⟩ cs
  .ok d.root

/-- The reader of this library. -/
def read : Reader := fun text => (parse text).mapError Fault.message

end KeySynth.Toml
