import Treewalk.Fault

/-!
# Program trees

A program is a file name and a list of nodes. Each node is located at a `Treewalk.Place` and
holds no state of its own, so one tree may be evaluated any number of times.
-/

namespace Treewalk

/-- A located piece of program. -/
inductive Node where
  | literal (place : Place) (value : Literal)
  | string (place : Place) (text : String)
  | var (place : Place) (name : String)
  | assign (place : Place) (name : String) (value : Node)
  | cond (place : Place) (test : Node) (thenBody : List Node) (elseBody : Option (List Node))
  | loop (place : Place) (test : Node) (body : List Node)
  | define (place : Place) (name : String) (params : List String) (body : List Node)
  | call (place : Place) (name : String) (args : List Node)

namespace Node

/-- Where a node stands. -/
def place : Node → Place
  | .literal p _ | .string p _ | .var p _ | .assign p _ _ | .cond p _ _ _ | .loop p _ _
  | .define p _ _ _ | .call p _ _ => p

/-- The name of a node's kind. -/
def title : Node → String
  | .literal _ _ => "LiteralNode"
  | .string _ _ => "StringNode"
  | .var _ _ => "VarRefNode"
  | .assign _ _ _ => "AssignNode"
  | .cond _ _ _ _ => "IfNode"
  | .loop _ _ _ => "WhileNode"
  | .define _ _ _ _ => "DefNode"
  | .call _ _ _ => "FuncallNode"

/-- A node's kind and line, such as `FuncallNode/3`. A line with too many digits is not written. -/
def shown (n : Node) : Except Mishap String :=
  if n.place.line.hasHugeInt then .error .tooManyDigits
  else .ok (n.title ++ "/" ++ n.place.line.display)

end Node

/-- A whole program. -/
structure Program where
  file : String
  body : List Node

/-- The place of a whole program: its file, and no line. -/
def Program.place (p : Program) : Place := ⟨.str p.file, .nil⟩

/-- The kind and the missing line of a whole program. -/
def Program.shown (p : Program) : String := "RootNode/" ++ p.place.line.display

/-- A node of no kind. It stands at a place and can be shown, but neither evaluated nor dumped. -/
structure Blank where
  place : Place

namespace Blank

/-- A blank node's line. -/
def shown (b : Blank) : String := "Node/" ++ b.place.line.display

/-- A blank node has no meaning. -/
def evaluate (_ : Blank) : Except Mishap Literal := .error .unimplemented

/-- A blank node has no document. -/
def dump (_ : Blank) : Except Mishap Document := .error (.type "cannot dump Node")

end Blank

/-- A function of the program: its parameters and its body. The name is the one it was written
with; it may be registered under another. -/
structure Function where
  name : String
  params : List String
  body : List Node
  place : Place

namespace Function

/-- The number of arguments that a function takes. -/
def arity (f : Function) : Nat := f.params.length

/-- Name and parameters, as in a definition. -/
def heading (f : Function) : String := f.name ++ "(" ++ ", ".intercalate f.params ++ ")"

/-- A function as it appears inside a larger value. -/
def shown (f : Function) : String := "<UserFunction " ++ f.heading ++ ">"

end Function

end Treewalk
