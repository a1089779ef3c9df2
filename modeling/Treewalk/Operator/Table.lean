import Treewalk.Template.Percent

/-!
# The operators

The operators by name, which values each of them suits, and what it gives. An operator only reads
the heap: what it makes new is an answer, and the heap is extended with it afterwards.
-/

namespace Treewalk

/-- The operators that values answer to. -/
inductive Operator where
  | arithmetic (op : Value.Arithmetic)
  | neg
  | compare (c : Comparison)
  | eq
  | ne
  | not
  | and
  | or
  | index
  deriving DecidableEq, Repr

namespace Operator

/-- The operators by name. -/
def table : List (String × Operator) :=
  [("plus", .arithmetic .add), ("minus", .arithmetic .sub), ("times", .arithmetic .mul),
   ("divide", .arithmetic .div), ("modulo", .arithmetic .mod), ("power", .arithmetic .pow),
   ("neg", .neg), ("lt", .compare .lt), ("le", .compare .le), ("gt", .compare .gt),
   ("ge", .compare .ge), ("eq", .eq), ("ne", .ne), ("not", .not), ("and", .and), ("or", .or),
   ("index", .index)]

/-- The operator with a name. -/
def ofName? (name : String) : Option Operator := table.lookup name

/-- Whether every value answers to an operator, unless it has a method of that name. -/
def isUniversal : Operator → Bool
  | .eq | .ne | .not | .and | .or => true
  | _ => false

/-- The number of operands besides the receiver. -/
def operands : Operator → Nat
  | .neg | .not => 0
  | _ => 1

/-- Whether a value is of a type that an operator is defined on. Order is defined on every type, but
most pairs of values have none. -/
def suits (w : World) (v : Value) : Operator → Bool
  | .arithmetic .add | .arithmetic .mul => v.number?.isSome || (w.sequence? v).isSome
  | .arithmetic .mod => v.number?.isSome ||
    match v with
    | .str _ _ | .bytes _ => true
    | _ => false
  | .arithmetic _ | .neg => v.number?.isSome
  | .compare _ => true
  | .index => (w.sequence? v).isSome ||
    match v with
    | .ref a => match w.heap.cell? a with
      | some (.dict _) => true
      | _ => false
    | _ => false
  | .eq | .ne | .not | .and | .or => false

/-- An arithmetic operator on two values. -/
def arithmeticOn (w : World) (op : Value.Arithmetic) (a b : Value) : Except Mishap Answer :=
  match a.number?, b.number?, w.sequence? a, w.sequence? b with
  | some x, some y, _, _ => Value.arithmetic op x y
  | _, _, left, right =>
    match op, left, right with
    | .add, some s, _ => w.concat s b
    | .mul, some s, _ => w.repeatBy s b
    | .mul, none, some s =>
      if a.number?.isSome then w.repeatBy s a else .error (op.mishap w a b)
    | .mod, some (.text s), _ => Template.fillText w a s.toList b
    | .mod, some (.octets bs), _ => do
      let s ← Template.fillPercent w true (Text.Octets.toText bs) b
      return .known (.bytes (Text.Octets.ofText s))
    | _, _, _ => .error (op.mishap w a b)

/-- The negative of a value. -/
def negated (w : World) (v : Value) : Except Mishap Answer :=
  match v.number? with
  | some (.int n) => .ok (.int (-n))
  | some (.float x) => .ok (.float (-x))
  | none => .error (.type ("bad operand type for unary -: '" ++ w.typeName v ++ "'"))

/-- The item of a value under an index or a key. -/
def itemOf (w : World) (v key : Value) : Except Mishap Answer :=
  match w.sequence? v, v with
  | some s, _ => s.subscript w key
  | none, .ref a =>
    match w.heap.cell? a with
    | some (.dict entries) => do
      w.checkKey key
      match w.findEntry key entries with
      | some v => return .known v
      | none => throw (w.missingKey key)
    | _ => .error (noItems v)
  | none, _ => .error (noItems v)
where
  noItems (v : Value) : Mishap := .type ("'" ++ w.typeName v ++ "' object is not subscriptable")

/-- What an operator gives. -/
def apply (w : World) (op : Operator) (receiver : Value) (args : List Value) :
    Except Mishap Answer :=
  match op, args with
  | .neg, _ => negated w receiver
  | .not, _ => do return .bool !(← w.truthy receiver)
  | .arithmetic op, [b] => arithmeticOn w op receiver b
  | .compare c, [b] => do return .bool (← c.test w receiver b)
  | .eq, [b] => .ok (.bool (w.heap.same receiver b))
  | .ne, [b] => .ok (.bool !(w.heap.same receiver b))
  | .and, [b] => do return .known (if ← w.truthy receiver then b else receiver)
  | .or, [b] => do return .known (if ← w.truthy receiver then receiver else b)
  | .index, [b] => itemOf w receiver b
  | _, _ => .ok (.known .nil)

end Operator

end Treewalk
