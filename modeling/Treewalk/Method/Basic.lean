import Treewalk.Operator.Table

/-!
# Capabilities and their arguments

A `Treewalk.Capability` is what a value, or the environment, can be asked to do under some name. It
says how many arguments it takes, if the count is to be checked beforehand, and what it does with
them. The functions below read arguments: as an integer, as a size, as the items of something that
can be gone through.
-/

namespace Treewalk

/-- Something that can be asked for by name. -/
structure Capability where
  signature : Option Signature
  run : Activation → List Value → Act Value

/-- Refuses a count of arguments that a signature does not admit. -/
def Signature.check (s : Signature) (name : String) (count : Nat) : Except Fault Unit :=
  if s.accepts count then .ok () else .error (.raised (.arity name count s.want) .nowhere)

namespace Capability

/-- A capability that changes the world. -/
def acting (signature : Option Signature) (f : List Value → Act Value) : Capability :=
  ⟨signature, fun _ args => f args⟩

/-- A capability that only reads the world. -/
def reading (signature : Option Signature) (f : World → List Value → Except Mishap Answer) :
    Capability :=
  acting signature fun args => Act.respond fun w => f w args

/-- A capability that is left out: it can be asked for, and its arguments are counted if they are
counted at all, but what it would do is not known here. These are the views of a dictionary, which
are no values of the language, and translation tables and the filling of a template from a
dictionary. -/
def closed (signature : Option Signature) : Capability :=
  acting signature fun _ => Act.fail .unimplemented

/-- Checks the number of arguments and does what is asked. -/
def invoke (c : Capability) (activation : Activation) (name : String) (args : List Value) :
    Act Value :=
  match c.signature with
  | none => c.run activation args
  | some s =>
    match s.check name args.length with
    | .ok () => c.run activation args
    | .error fault => throw fault

end Capability

/-- A signature without optional parameters. -/
def takes (count : Nat) : Option Signature := some { required := count }

/-- A signature with optional parameters. -/
def takesUpTo (required optional : Nat) : Option Signature :=
  some { required := required, optional := optional }

/-- A signature that admits any number of further arguments. -/
def takesMore (required : Nat) : Option Signature :=
  some { required := required, variadic := true }

namespace World

/-- An argument as an integer. -/
def integer (w : World) (v : Value) : Except Mishap Int :=
  match v.int? with
  | some n => .ok n
  | none => .error (.type ("'" ++ w.typeName v ++ "' object cannot be interpreted as an integer"))

/-- An argument as an integer that a position or a size may have. -/
def size (w : World) (v : Value) : Except Mishap Int := do
  let n ← w.integer v
  if Sequence.isHuge n then throw (.overflow "Python int too large to convert to C ssize_t")
  return n

/-- An argument as a small integer. -/
def smallInteger (w : World) (v : Value) : Except Mishap Int := do
  let n ← w.integer v
  if 0x80000000 ≤ n || n < -0x80000000 then throw (.overflow "Python int too large to convert to C int")
  return n

/-- The items of a value that can be gone through, in order; a dictionary gives its keys. -/
def items? (w : World) (v : Value) : Option (List Value) :=
  match w.sequence? v, v with
  | some (.text s), _ => some (s.toList.map fun c => .chars [c])
  | some (.octets bs), _ => some (bs.map fun b => .int b.toNat)
  | some (.list items), _ | some (.tuple items), _ => some items
  | none, .ref a =>
    match w.heap.cell? a with
    | some (.dict entries) => some (entries.map (·.1))
    | _ => none
  | none, _ => none

/-- The number of items of a value. -/
def length (w : World) (v : Value) : Except Mishap Nat :=
  match w.items? v with
  | some items => .ok items.length
  | none => .error (.type ("object of type '" ++ w.typeName v ++ "' has no len()"))

/-- The items of a value, which has to be one that can be gone through. -/
def items (w : World) (v : Value) : Except Mishap (List Value) :=
  match w.items? v with
  | some items => .ok items
  | none => .error (.type ("'" ++ w.typeName v ++ "' object is not iterable"))

end World

/-- What is found where a value of another type is wanted; nil is called by its name. -/
def World.found (w : World) : Value → String
  | .nil => "None"
  | v => w.typeName v

/-- The text for a number of arguments. -/
def countedArguments (n : Nat) : String :=
  toString n ++ (if n = 1 then " argument" else " arguments")

/-- Refuses arguments of a capability that takes none and checks this itself. -/
def refuseArguments (w : World) (receiver : Value) (name : String) (args : List Value) :
    Except Mishap Unit :=
  if args.isEmpty then .ok ()
  else .error (.type (w.typeName receiver ++ "." ++ name ++ "() takes no arguments (" ++
    toString args.length ++ " given)"))

/-- Refuses a number of arguments outside bounds, of a capability that checks this itself. -/
def expectArguments (name : String) (least most : Nat) (args : List Value) : Except Mishap Unit :=
  let told (bound : String) (n : Nat) : Mishap :=
    .type (name ++ " expected " ++ bound ++ countedArguments n ++ ", got " ++ toString args.length)
  if args.length < least then
    .error (told (if least = most then "" else "at least ") least)
  else if most < args.length then
    .error (told (if least = most then "" else "at most ") most)
  else .ok ()

end Treewalk
