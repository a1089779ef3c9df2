import Treewalk.Program.Node
import Treewalk.Text.Lines

/-!
# Programs as readable source

`Treewalk.Program.printed` writes a tree the way a program is read by people: one statement a line,
blocks closed by `end`, each body one step further in than its header. A program that holds an
integer with too many digits has no such text.
-/

namespace Treewalk

/-- A literal as it is written in source. -/
def Literal.printed : Literal → String
  | .nil => "nil"
  | .bool b => if b then "true" else "false"
  | .int n => toString n
  | .float x _ => Decimal.render x

/-- A function as it is written where a value is expected. -/
def Function.printed (f : Function) : String := "#<function " ++ f.heading ++ ">"

/-- A table of functions as it is printed for people. -/
def Function.tablePrinted (table : List (String × Function)) : String :=
  "\x7b" ++ ", ".intercalate (table.map fun e => Text.quoteDouble e.1 ++ " => " ++ e.2.printed) ++ "\x7d"

namespace Program

/-- The blanks of `level` steps of `width` blanks each; there are none before the first step. -/
def indentation (width level : Int) : String :=
  String.ofList (List.replicate (width.toNat * level.toNat) ' ')

/-- A statement of a body: its lines, the first one indented. The others are indented already. -/
def bodyLine (indent text : String) : String :=
  match Text.splitLines text.toList with
  | [] => indent
  | first :: rest => "\n".intercalate ((indent ++ String.ofList first) :: rest.map String.ofList)

/-- A block: its header, its lines and its end. -/
def block (outer header : String) (lines : List String) : String :=
  "\n".intercalate (header :: (lines ++ [outer ++ "end"]))

mutual

/-- A node as source, at a level of nesting. -/
def printNode (width level : Int) : Node → String
  | .literal _ v => v.printed
  | .string _ s => Text.quoteDouble s
  | .var _ name => name
  | .assign _ name value => name ++ " = " ++ printNode width level value
  | .cond _ test thenBody elseBody =>
    block (indentation width level) ("if " ++ printNode width level test)
      (printBody width level thenBody ++
        match elseBody with
        | none => []
        | some body => (indentation width level ++ "else") :: printBody width level body)
  | .loop _ test body =>
    block (indentation width level) ("while " ++ printNode width level test)
      (printBody width level body)
  | .define _ name params body =>
    block (indentation width level) ("def " ++ name ++ "(" ++ ", ".intercalate params ++ ")")
      (printBody width level body)
  | .call _ name args => name ++ "(" ++ ", ".intercalate (printAll width level args) ++ ")"

/-- The statements of a body, each one step further in. -/
def printBody (width level : Int) : List Node → List String
  | [] => []
  | n :: rest =>
    bodyLine (indentation width (level + 1)) (printNode width (level + 1) n) ::
      printBody width level rest

/-- Several nodes as source, at one level. -/
def printAll (width level : Int) : List Node → List String
  | [] => []
  | n :: rest => printNode width level n :: printAll width level rest

end

/-- The statements of a program as source, at a level of nesting. -/
def printStatements (width level : Int) (nodes : List Node) : String :=
  "\n".intercalate (printAll width level nodes)

end Program

mutual

/-- Whether a node holds an integer with too many digits to be written. -/
def Node.hasHugeInt : Node → Bool
  | .literal _ (.int n) => Decimal.isTooLong n
  | .literal _ _ | .string _ _ | .var _ _ => false
  | .assign _ _ value => value.hasHugeInt
  | .cond _ test thenBody elseBody =>
    test.hasHugeInt || Node.anyHuge thenBody ||
      match elseBody with
      | none => false
      | some body => Node.anyHuge body
  | .loop _ test body => test.hasHugeInt || Node.anyHuge body
  | .define _ _ _ body => Node.anyHuge body
  | .call _ _ args => Node.anyHuge args

/-- Whether one of several nodes holds such an integer. -/
def Node.anyHuge : List Node → Bool
  | [] => false
  | n :: rest => n.hasHugeInt || Node.anyHuge rest

end

/-- A node as source, at a level of nesting. -/
def Node.printed (width level : Int) (n : Node) : Except Mishap String :=
  if n.hasHugeInt then .error .tooManyDigits else .ok (Program.printNode width level n)

/-- A program as source, at a level of nesting. -/
def Program.printed (width level : Int) (p : Program) : Except Mishap String :=
  if Node.anyHuge p.body then .error .tooManyDigits
  else .ok (Program.printStatements width level p.body)

end Treewalk
