import Treewalk.Program.Node

/-!
# From programs back to documents

`Treewalk.Program.dump` writes a tree as a document. Every node says its kind and its line; its
file is written only where it differs from the name of the file the program is dumped for.
-/

namespace Treewalk

namespace Program

/-- A mapping from texts. -/
def mappingOf (entries : List (String × Document)) : Document :=
  .mapping none (entries.map fun e => (.str e.1, e.2))

/-- The entries that every node has: kind, line, and the file if it is not the expected one. -/
def heading (file : String) (tag : String) (p : Place) : List (String × Document) :=
  ("node", .str tag) :: ("line", p.line) ::
    match p.file with
    | .str s => if s = file then [] else [("file", p.file)]
    | _ => [("file", p.file)]

mutual

/-- A node as a document. -/
def dumpNode (file : String) : Node → Document
  | .literal p v => mappingOf (heading file "literal" p ++ [("value", .literal v)])
  | .string p s => mappingOf (heading file "string" p ++ [("value", .str s)])
  | .var p name => mappingOf (heading file "var" p ++ [("name", .str name)])
  | .assign p name value =>
    mappingOf (heading file "assign" p ++ [("name", .str name), ("value", dumpNode file value)])
  | .cond p test thenBody elseBody =>
    mappingOf (heading file "if" p ++
      [("cond", dumpNode file test), ("then", .list none (dumpAll file thenBody))] ++
      match elseBody with
      | none => []
      | some body => [("else", .list none (dumpAll file body))])
  | .loop p test body =>
    mappingOf (heading file "while" p ++
      [("cond", dumpNode file test), ("body", .list none (dumpAll file body))])
  | .define p name params body =>
    mappingOf (heading file "def" p ++
      [("name", .str name), ("params", .list none (params.map .str)),
       ("body", .list none (dumpAll file body))])
  | .call p name args =>
    mappingOf (heading file "call" p ++
      [("name", .str name), ("args", .list none (dumpAll file args))])

/-- The nodes of a body as documents. -/
def dumpAll (file : String) : List Node → List Document
  | [] => []
  | n :: rest => dumpNode file n :: dumpAll file rest

end

/-- A program as a document, relative to a file name. -/
def dump (file : String) (p : Program) : Document := .list none (dumpAll file p.body)

end Program

end Treewalk
