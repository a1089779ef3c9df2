import Treewalk.Program.Node

/-!
# From documents to programs

`Treewalk.Program.ofDocument` checks a document against the grammar of programs and builds the
tree. A bare scalar is a literal; everything else is a mapping that names its kind under `node`
and may carry a `line` and a `file`.

A node inherits what it does not say: the line of the node around it, and that node's file, or the
program's own file name where that file counts as false. The first fault in reading order wins, and
it is positioned exactly when the malformed mapping has a line of its own.
-/

namespace Treewalk

namespace Document

theorem sizeOf_find? {key : String} {entries : List (Document × Document)} {d : Document}
    (h : find? key entries = some d) : sizeOf d < sizeOf entries := by
  induction entries with
  | nil => simp [find?] at h
  | cons e rest ih =>
    obtain ⟨k, v⟩ := e
    simp only [find?] at h
    split at h
    · cases h
      simp
      omega
    · have := ih h
      simp
      omega

end Document

namespace Program

/-- What a node inherits: the program's file name, and the file and line around it. -/
structure Context where
  root : String
  file : Document
  line : Document

namespace Context

/-- The context of the top-level statements. -/
def ofFile (name : String) : Context := ⟨name, .nil, .int 0⟩

/-- The file of a node that does not name one. -/
def inherited (c : Context) : Document := if c.file.truthy then c.file else .str c.root

/-- The place of a scalar. -/
def here (c : Context) : Place := ⟨c.inherited, c.line⟩

/-- The place of a mapping: what it says itself, and what it inherits otherwise. -/
def placeOf (c : Context) (entries : List (Document × Document)) : Place :=
  ⟨(Document.find? "file" entries).getD c.inherited, (Document.find? "line" entries).getD c.line⟩

/-- The context of the parts of a node at the given place. -/
def within (c : Context) (p : Place) : Context := ⟨c.root, p.file, p.line⟩

end Context

/-- Where a malformed mapping is blamed: at its place if it has a line of its own. -/
def blamePlace (c : Context) (entries : List (Document × Document)) : Place :=
  match Document.find? "line" entries with
  | none => .nowhere
  | some line => if line.isNil then .nowhere else c.placeOf entries

/-- The text under a key. -/
def textAt (blame : FormatFault → Fault) (tag key : String)
    (entries : List (Document × Document)) : Except Fault String :=
  match Document.find? key entries with
  | none => .error (blame (.missing tag key))
  | some (.str s) => .ok s
  | some _ => .error (blame (.wrongKind tag key .text))

/-- The names in a list. -/
def namesOf (blame : FormatFault → Fault) (tag key : String) :
    List Document → Except Fault (List String)
  | [] => .ok []
  | .str s :: rest => (namesOf blame tag key rest).map (s :: ·)
  | d :: _ => .error (blame (.notName tag key d))

/-- The list of names under a key. -/
def namesAt (blame : FormatFault → Fault) (tag key : String)
    (entries : List (Document × Document)) : Except Fault (List String) :=
  match Document.find? key entries with
  | none => .error (blame (.missing tag key))
  | some (.list _ items) => namesOf blame tag key items
  | some _ => .error (blame (.wrongKind tag key .list))

mutual

/-- Builds a node from a document. -/
def readNode (c : Context) : Document → Except Fault Node
  | .literal l => .ok (.literal c.here l)
  | .str s => .ok (.string c.here s)
  | .mapping label entries =>
    let place := c.placeOf entries
    let inner := c.within place
    let blame := fun f => Fault.ofFormat f (blamePlace c entries)
    match Document.find? "node" entries with
    | none | some (.literal .nil) => .error (blame (.untagged (.mapping label entries)))
    | some (.str "literal") =>
      match Document.find? "value" entries with
      | none => .ok (.literal place .nil)
      | some (.str s) => .ok (.string place s)
      | some (.literal l) => .ok (.literal place l)
      | some d => .error (blame (.notScalar d))
    | some (.str "string") => return .string place (← textAt blame "string" "value" entries)
    | some (.str "var") => return .var place (← textAt blame "var" "name" entries)
    | some (.str "assign") => do
      let name ← textAt blame "assign" "name" entries
      match _h : Document.find? "value" entries with
      | none => .error (blame (.missing "assign" "value"))
      | some d => return .assign place name (← readNode inner d)
    | some (.str "if") => do
      let test ← match _h : Document.find? "cond" entries with
        | none => .error (blame (.missing "if" "cond"))
        | some d => readNode inner d
      let thenBody ← match _h : Document.find? "then" entries with
        | none => .error (blame (.missing "if" "then"))
        | some (.list _ items) => readAll inner items
        | some _ => .error (blame (.wrongKind "if" "then" .list))
      match _h : Document.find? "else" entries with
      | none | some (.literal .nil) => return .cond place test thenBody none
      | some (.list _ items) => return .cond place test thenBody (some (← readAll inner items))
      | some _ => .error (blame (.wrongKind "if" "else" .list))
    | some (.str "while") => do
      let test ← match _h : Document.find? "cond" entries with
        | none => .error (blame (.missing "while" "cond"))
        | some d => readNode inner d
      match _h : Document.find? "body" entries with
      | none => .error (blame (.missing "while" "body"))
      | some (.list _ items) => return .loop place test (← readAll inner items)
      | some _ => .error (blame (.wrongKind "while" "body" .list))
    | some (.str "def") => do
      let name ← textAt blame "def" "name" entries
      let params ← namesAt blame "def" "params" entries
      match _h : Document.find? "body" entries with
      | none => .error (blame (.missing "def" "body"))
      | some (.list _ items) => return .define place name params (← readAll inner items)
      | some _ => .error (blame (.wrongKind "def" "body" .list))
    | some (.str "call") =>
      match _h : Document.find? "args" entries with
      | none => return .call place (← textAt blame "call" "name" entries) []
      | some (.list _ items) => do
        let name ← textAt blame "call" "name" entries
        return .call place name (← readAll inner items)
      | some d =>
        if d.truthy then .error (blame .argumentsNotList)
        else return .call place (← textAt blame "call" "name" entries) []
    | some tag => .error (blame (.unknownTag tag))
  | d => .error (Fault.ofFormat (.notNode d) .nowhere)
termination_by d => sizeOf d
decreasing_by
  all_goals
    have := Document.sizeOf_find? ‹Document.find? _ _ = some _›
    simp at this ⊢
    omega

/-- Builds the nodes of a body, in order. -/
def readAll (c : Context) : List Document → Except Fault (List Node)
  | [] => .ok []
  | d :: rest => do return (← readNode c d) :: (← readAll c rest)
termination_by ds => sizeOf ds
decreasing_by
  all_goals
    simp only [List.cons.sizeOf_spec]
    omega

end

/-- Builds a program from a document: a list of statements, or nothing. -/
def ofDocument (file : String) : Document → Except Fault Program
  | .literal .nil => .ok ⟨file, []⟩
  | .list _ items => do return ⟨file, ← readAll (.ofFile file) items⟩
  | _ => .error (Fault.ofFormat .notStatements ⟨.str file, .nil⟩)

end Program

end Treewalk
