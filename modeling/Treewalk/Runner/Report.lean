import Treewalk.Core.Eval

/-!
# Reports

What is said about a run that failed: the kind of the failure, its message with the place, and the
chain of calls that led there, the innermost first. A report that would hold an integer with too
many digits cannot be written.
-/

namespace Treewalk

/-- A report in one text. A kind that is missing is said to be none, and so is a message. -/
def reportText (kind message : Option String) (stack : List String) : String :=
  let said := match message with
    | none | some "" => "Unknown error"
    | some m => m
  kind.getD "None" ++ ": " ++ said ++
    (if stack.isEmpty then "" else "\nintp stacktrace: " ++ " <- ".intercalate stack)

/-- A run that failed. -/
structure Failure where
  kind : String
  message : String
  location : Option Place
  stack : List String

/-- The report on a failure. -/
def Failure.report (f : Failure) : String := reportText (some f.kind) (some f.message) f.stack

/-- An entry of the chain of calls as a text. -/
def CallEntry.text (e : CallEntry) : String :=
  e.name ++ (if e.site.isPositioned then " (called at " ++ e.site.text ++ ")" else "")

/-- The kind of a fault in a report: whatever the surroundings did is one kind. -/
def Fault.kind : Fault → String
  | .raised cause _ => cause.title
  | .host _ => "EnvironmentFailure"

/-- The place of a fault, or nothing if it has no line. -/
def Place.positioned? (p : Place) : Option Place := if p.isPositioned then some p else none

/-- Where a report places a fault. A mishap is placed at the node that was being evaluated. -/
def Fault.reportedAt (current : Option Node) : Fault → Place
  | .raised _ place => place
  | .host _ => current.elim .nowhere Node.place

/-- What a report says of a fault, apart from its place. -/
def Fault.said : Fault → String
  | .raised cause _ => cause.text
  | .host m => m.text

/-- Whether what a report says of a fault can be written. -/
def Fault.isWritable : Fault → Bool
  | .raised cause _ => cause.isWritable
  | .host m => m.isWritable

/-- The failure of a run that ended in a fault, at a node and inside the given calls. -/
def Fault.failure (fault : Fault) (current : Option Node) (calls : List CallEntry) :
    Except Mishap Failure :=
  let place := fault.reportedAt current
  if fault.isWritable && place.isWritable && calls.all (·.site.isWritable) then
    .ok ⟨fault.kind, place.locate fault.said, place.positioned?, calls.map CallEntry.text⟩
  else .error .tooManyDigits

end Treewalk
