import Treewalk.Method.Container
import Treewalk.Method.Octets
import Treewalk.Method.Scalar

/-!
# What objects can do

The capabilities of the objects that a host hands out, and the table of capabilities by the type of
the receiver. What is still missing there is the capability of a text to be filled as a template:
fields of templates can show what a value is able to do, so it comes last
(`Treewalk.World.method?`).
-/

namespace Treewalk

/-! ### Counters -/

/-- Adds to a value in place: numbers, texts and tuples are added, a list takes in the items. -/
def increased (v more : Value) : Act Value := do
  let w ← get
  match v, w.sequence? v with
  | .ref a, some (.list items) =>
    let extra ← Act.lift (w.items more)
    Act.store a (.list (items ++ extra))
    return v
  | _, _ =>
    if (v.number?.isSome && more.number?.isSome) || (w.sequence? v).isSome then
      Act.respond fun w => Operator.arithmeticOn w .add v more
    else
      Act.fail (.type ("unsupported operand type(s) for +=: '" ++ w.typeName v ++ "' and '" ++
        w.typeName more ++ "'"))

/-- Counts on by one or by the argument, and gives the new count. -/
def bump (a : Nat) (count : Value) (args : List Value) : Act Value := do
  let next ← increased count (args.headD (.int 1))
  Act.store a (.counter next)
  return next

/-- The capability of a counter with a name. -/
def counterMethod? (a : Nat) (count : Value) (name : String) : Option Capability :=
  if name = "bump" then some (.acting (takesUpTo 0 1) (bump a count)) else none

/-! ### Vectors -/

/-- The number that a vector holds. -/
def vectorOf (w : World) (v : Value) : Except Mishap Value :=
  match v with
  | .ref a =>
    match w.heap.cell? a with
    | some (.vector x) => .ok x
    | _ => .error (.noProperty (w.typeName v) "x")
  | v => .error (.noProperty (w.typeName v) "x")

/-- The sum of two vectors. -/
def vectorSum (x : Value) (args : List Value) : Act Value := do
  let y ← Act.read fun w => vectorOf w (args.headD .nil)
  let sum ← Act.respond fun w => Operator.arithmeticOn w .add x y
  Act.object (.vector sum)

/-- The capability of a vector with a name. -/
def vectorMethod? (x : Value) : String → Option Capability
  | "plus" => some (.acting (takes 1) (vectorSum x))
  | "index" => some (.reading (takes 1) fun w args =>
      Operator.arithmeticOn w .mul x (args.headD .nil))
  | "eq" => some (.reading (takes 1) fun _ _ => .ok (.text "own eq"))
  | _ => none

/-! ### All values -/

/-- The method of a value with a name, unless it fills a template. -/
def World.plainMethod? (w : World) (v : Value) (name : String) : Option Capability :=
  match v with
  | .nil | .environment => none
  | .bool b => intMethod? v (if b then 1 else 0) name
  | .int n => intMethod? v n name
  | .float x _ => floatMethod? v x name
  | .str s _ => textMethod? v s name
  | .bytes bs => octetMethod? bs name
  | .ref a =>
    match w.heap.cell? a with
    | some (.list items) => listMethod? a items name
    | some (.tuple items) => tupleMethod? items name
    | some (.dict entries) => dictMethod? a entries name
    | some (.counter count) => counterMethod? a count name
    | some (.vector x) => vectorMethod? x name
    | some .grumpy | none => none

end Treewalk
