import Treewalk.Method.Object

/-!
# Attributes

A field of a template can name an attribute of a value, and so look at what the language has no
value for: a method, the class of a value, or the annotations of that class. A
`Treewalk.Template.Referent` is anything that a field can come upon.

Two of these are not determined by the program. The text of a method tells where its owner lies in
memory, which only the machine knows. And to look for the annotations of the class of texts that
literals make is to make them, so that they are found from then on, by later runs as well.

Public attributes are all there are, and of those that are marked as private by an underscore only
the class and the annotations; the others are taken to be absent. So are the attributes of classes
and methods themselves, and those of the environment.
-/

namespace Treewalk

/-- The attribute of a value that is a value: the parts of a number, and what an object holds. -/
def World.property? (w : World) (v : Value) (name : String) : Option Value :=
  match v.number?, name with
  | some (.int n), "real" | some (.int n), "numerator" => some (.int n)
  | some (.int _), "imag" => some (.int 0)
  | some (.int _), "denominator" => some (.int 1)
  | some (.float _), "real" => some v
  | some (.float _), "imag" => some (.float 0 0)
  | _, _ =>
    match v with
    | .ref a =>
      match w.heap.cell? a, name with
      | some (.counter count), "n" => some count
      | some (.vector x), "x" => some x
      | _, _ => none
    | _ => none

/-- Whether a value has a method with a name, if only one that an operator keeps from being
called. -/
def World.hasMethod (w : World) (v : Value) (name : String) : Bool :=
  (w.plainMethod? v name).isSome ||
    match v with
    | .str _ _ => name == "format" || name == "index"
    | v => name == "index" && (w.sequence? v).isSome

/-- The name of the class of a value. The classes of an environment and of what it hands out are not
known. -/
def World.className? (w : World) (v : Value) : Option String :=
  match v with
  | .environment => none
  | .ref a =>
    match w.heap.cell? a with
    | some (.list _) | some (.tuple _) | some (.dict _) => some (w.typeName v)
    | _ => none
  | v => some (w.typeName v)

namespace Template

/-- **What a field can come upon**: a value, a method by the name of its type and its text, a class
by its name, or the annotations of a class. -/
inductive Referent where
  | value (v : Value)
  | method (typeName text : String)
  | kind (name : String)
  | annotations

namespace Referent

/-- The name of the type of what a field came upon. -/
def typeName (w : World) : Referent → String
  | .value v => w.typeName v
  | .method typeName _ => typeName
  | .kind _ => "type"
  | .annotations => "dict"

/-- The class of texts that literals make. -/
def literalClass : String := "StringValue"

/-- The text of what is no value. -/
def text : Referent → String
  | .value _ => ""
  | .method _ text => text
  | .kind name =>
    "<class '" ++ (if name = literalClass then "intp.intp_nodes." else "") ++ name ++ "'>"
  | .annotations => "\x7b\x7d"

/-- A text that shows the structure of what a field came upon. -/
def shown (w : World) : Referent → Except Mishap String
  | .value v => w.shown v
  | r => .ok r.text

/-- A text in which a text stands for itself. -/
def display (w : World) : Referent → Except Mishap String
  | .value v => w.display v
  | r => .ok r.text

end Referent

/-- The methods that belong to a class and not to its members. -/
def classMethods : List String := ["maketrans", "fromkeys", "from_bytes", "fromhex"]

/-- A method as an object. That of an object which the environment handed out shows its owner, any
other one where its owner lies. -/
def methodOf (v : Value) (name : String) : Act Referent := do
  let w ← get
  match w.className? v with
  | some typeName => do
    let address ← Act.locate
    let owner := if name ∈ classMethods then "type" else typeName
    return .method "builtin_function_or_method" ("<built-in method " ++ name ++ " of " ++ owner ++
      " object at 0x" ++ String.ofList (Nat.toDigits 16 address) ++ ">")
  | none => do
    let owner ← Act.lift (w.shown v)
    return .method "method"
      ("<bound method " ++ w.typeName v ++ "." ++ name ++ " of " ++ owner ++ ">")

/-- An attribute of a value whose name is marked as private. -/
def privateOf (v : Value) (name : String) : Act Referent := do
  let w ← get
  match w.className? v with
  | some typeName =>
    if name = "__class__" then return .kind typeName
    else if name = "__annotations__" && typeName == Referent.literalClass &&
        w.machine.annotated then
      return .annotations
    else Act.fail (.noProperty typeName name)
  | none => Act.fail (.noProperty (w.typeName v) name)

/-- **An attribute** of what a field came upon. -/
def attributeOf (r : Referent) (name : String) : Act Referent := do
  let w ← get
  match r with
  | .value v =>
    match w.property? v name with
    | some x => return .value x
    | none => if w.hasMethod v name then methodOf v name else privateOf v name
  | .kind typeName =>
    if name = "__annotations__" && typeName == Referent.literalClass then do
      Act.annotate
      return .annotations
    else Act.fail (.noClassProperty typeName name)
  | r => Act.fail (.noProperty (r.typeName w) name)

/-- **An item** of what a field came upon. That of a value exists already or is a scalar. -/
def itemOf (w : World) (key : Value) : Referent → Except Mishap Referent
  | .value v => do
    match ← Operator.itemOf w v key with
    | .known item => return .value item
    | _ => return .value .nil
  | .kind name => .error (.type ("type '" ++ name ++ "' is not subscriptable"))
  | .annotations => .error (w.missingKey key)
  | .method typeName _ => .error (.type ("'" ++ typeName ++ "' object is not subscriptable"))

end Template

end Treewalk
