import Treewalk.Arity
import Treewalk.Document.Basic
import Treewalk.Mishap
import Treewalk.Picture

/-!
# Faults

A *fault* ends an evaluation. It is either the evaluator's own, with a cause and a place, or a
mishap of the surroundings, which carries no place. A place is what the document says it is: its
line may be any document, and a fault is *positioned* when the line is not nil.

What a fault says is written when it is raised. Where that fails, because there is an integer with
too many digits in it, the failure is a mishap that takes the place of the fault; see
`Treewalk.Fault.raise`.
-/

namespace Treewalk

/-- Where a node stands: the file and the line that its document gives it. -/
structure Place where
  file : Document
  line : Document

namespace Place

/-- No place at all. -/
def nowhere : Place := ⟨.nil, .nil⟩

/-- Whether the place has a line. -/
def isPositioned (p : Place) : Bool := !p.line.isNil

/-- File and line, with a colon between them. -/
def text (p : Place) : String := p.file.display ++ ":" ++ p.line.display

/-- Whether the place can be written in front of a message. -/
def isWritable (p : Place) : Bool :=
  !p.isPositioned || !(p.file.hasHugeInt || p.line.hasHugeInt)

/-- Puts the place in front of a message if there is a line. -/
def locate (p : Place) (message : String) : String :=
  if p.isPositioned then "in " ++ p.text ++ ": " ++ message else message

end Place

/-- What a value under a key has to be. -/
inductive Expected where
  | text
  | list
  deriving DecidableEq, Repr

/-- The name of the expectation in messages. -/
def Expected.title : Expected → String
  | .text => "str"
  | .list => "list"

/-- Why a document is no program. -/
inductive FormatFault where
  | notStatements
  | notNode (found : Document)
  | notScalar (found : Document)
  | missing (tag key : String)
  | wrongKind (tag key : String) (expected : Expected)
  | notName (tag key : String) (found : Document)
  | argumentsNotList
  | untagged (found : Document)
  | unknownTag (tag : Document)
  | json (problem : String)
  | yaml (problem : String)
  | stated (text : String)

/-- What a format fault says. -/
def FormatFault.text : FormatFault → String
  | .notStatements => "a program must be a list of statements"
  | .notNode d => "cannot build a node from " ++ d.shown
  | .notScalar d => "literal node: 'value' must be a scalar, got " ++ d.shown
  | .missing tag key => tag ++ " node is missing '" ++ key ++ "'"
  | .wrongKind tag key e => tag ++ " node: '" ++ key ++ "' must be a " ++ e.title
  | .notName tag key d => tag ++ " node: '" ++ key ++ "' must hold names, got " ++ d.shown
  | .argumentsNotList => "call node: 'args' must be a list"
  | .untagged d => "mapping without a 'node' tag: " ++ d.shown
  | .unknownTag d => "unknown node type " ++ d.shown
  | .json problem => "invalid JSON program: " ++ problem
  | .yaml problem => "invalid YAML program: " ++ problem
  | .stated text => text

/-- Whether what a format fault says can be written. -/
def FormatFault.isWritable : FormatFault → Bool
  | .notNode d | .notScalar d | .notName _ _ d | .untagged d | .unknownTag d => !d.hasHugeInt
  | _ => true

/-- How an unresolved name was used. -/
inductive Use where
  | call
  | bare
  | stated (text : String)
  deriving DecidableEq, Repr

/-- Why the evaluator gave up. -/
inductive Cause where
  /-- A routine of the environment stated a failure of the program. -/
  | stated (message : Picture)
  /-- The frame stack is full. -/
  | tooDeep
  /-- A function is defined a second time. -/
  | conflict (name : String)
  /-- No tier of resolution knows the name. -/
  | unresolved (name : String) (use : Use)
  /-- A call has a wrong number of arguments. -/
  | arity (name : String) (got : Int) (want : Want)
  /-- The program document is malformed. -/
  | format (fault : FormatFault)

namespace Cause

/-- The name of a cause's kind in reports. -/
def title : Cause → String
  | .stated _ | .tooDeep => "IntpError"
  | .conflict _ => "DefinitionConflict"
  | .unresolved _ _ => "UnresolvedCall"
  | .arity _ _ _ => "ArityMismatch"
  | .format _ => "ProgramFormatError"

/-- What a cause says, without its place. -/
def text : Cause → String
  | .stated message => message.display
  | .tooDeep => "stack level too deep"
  | .conflict name => "function " ++ name ++ " defined twice"
  | .unresolved name .call => "undefined function " ++ name
  | .unresolved name .bare => "unknown method or local variable " ++ name
  | .unresolved _ (.stated text) => text
  | .arity name got want =>
    "wrong # of arg for " ++ name ++ "() (" ++ toString got ++ " for " ++ want.text ++ ")"
  | .format f => f.text

/-- Whether what a cause says can be written. -/
def isWritable : Cause → Bool
  | .stated message => !message.hasHugeInt
  | .format f => f.isWritable
  | _ => true

/-- The name that a cause is about, if it is about one. -/
def identifier? : Cause → Option String
  | .conflict name | .unresolved name _ | .arity name _ _ => some name
  | _ => none

/-- Whether the cause is a wrong number of arguments. -/
def isArity : Cause → Bool
  | .arity _ _ _ => true
  | _ => false

end Cause

/-- The end of an evaluation that did not reach a value. -/
inductive Fault where
  | raised (cause : Cause) (place : Place)
  | host (mishap : Mishap)

namespace Fault

/-- The kind of a fault, as it is named where the fault itself is shown. -/
def title : Fault → String
  | .raised cause _ => cause.title
  | .host m => m.kind.title

/-- The message of a fault, with its place in front if it has one. -/
def message : Fault → String
  | .raised cause place => place.locate cause.text
  | .host m => m.message

/-- A fault with a cause at a place, or the mishap that it cannot be written. -/
def raise (cause : Cause) (place : Place) : Fault :=
  if cause.isWritable && place.isWritable then .raised cause place else .host .tooManyDigits

/-- Moves a wrong number of arguments to a place. -/
def relocated (place : Place) : Fault → Fault
  | .raised (.arity name got want) _ => raise (.arity name got want) place
  | fault => fault

/-- Whether a fault has a line. -/
def isPositioned : Fault → Bool
  | .raised _ place => place.isPositioned
  | .host _ => false

/-- Moves a wrong number of arguments to the call it belongs to, unless it has a line already. -/
def movedTo (place : Place) (fault : Fault) : Fault :=
  if fault.isPositioned then fault else fault.relocated place

/-- A fault of the document's format at a place. -/
def ofFormat (fault : FormatFault) (place : Place) : Fault := raise (.format fault) place

end Fault

end Treewalk
