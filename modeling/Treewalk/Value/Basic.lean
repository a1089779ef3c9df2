import Treewalk.Document.Basic
import Treewalk.Fault

/-!
# Values and the heap

A value is a scalar or a reference to a *cell* of the heap: a list, a tuple, a dictionary, or one of
the objects a host may hand out. Lists and dictionaries change in place, so two references to one
cell see each other's changes.

Cells are only ever added. Reading functions that follow references take a bound on their depth,
which the size of the heap supplies.
-/

namespace Treewalk

/-- A value of the language. A double carries a stamp that tells apart two that are not numbers. A
text is *fresh* if it was made by evaluating a string literal; its stamp tells apart two of them. -/
inductive Value where
  | nil
  | bool (b : Bool)
  | int (n : Int)
  | float (x : Float) (stamp : Nat)
  | str (text : String) (fresh : Option Nat)
  | bytes (octets : List UInt8)
  | ref (address : Nat)
  | environment
  deriving Inhabited

/-- What a cell of the heap holds. -/
inductive Cell where
  | list (items : List Value)
  | tuple (items : List Value)
  | dict (entries : List (Value × Value))
  | counter (count : Value)
  | vector (x : Value)
  | grumpy

/-- The cells, by address, and the number of stamps given out. -/
structure Heap where
  cells : Array Cell
  stamps : Nat

namespace Heap

/-- No cells. -/
def empty : Heap := ⟨#[], 0⟩

/-- The cell at an address. -/
def cell? (h : Heap) (a : Nat) : Option Cell := h.cells[a]?

/-- Adds a cell and gives its address. -/
def alloc (h : Heap) (c : Cell) : Nat × Heap := (h.cells.size, { h with cells := h.cells.push c })

/-- Changes the cell at an address. -/
def store (h : Heap) (a : Nat) (c : Cell) : Heap := { h with cells := h.cells.setIfInBounds a c }

/-- Gives out a stamp. -/
def stamp (h : Heap) : Nat × Heap := (h.stamps, { h with stamps := h.stamps + 1 })

/-- A bound for the depth of what can be seen from a value without going around a cycle. -/
def depth (h : Heap) : Nat := (h.cells.size + 1) * (h.cells.size + 2)

end Heap

namespace Value

/-- A plain text. -/
def text (s : String) : Value := .str s none

/-- A plain text given by its characters. -/
def chars (s : List Char) : Value := .str (String.ofList s) none

/-- A number: the truth values are one and zero. -/
inductive Number where
  | int (n : Int)
  | float (x : Float)

/-- The number that a value is, if it is one. -/
def number? : Value → Option Number
  | .bool b => some (.int (if b then 1 else 0))
  | .int n => some (.int n)
  | .float x _ => some (.float x)
  | _ => none

/-- The integer that a value is, if it is one; a truth value is one. -/
def int? : Value → Option Int
  | .bool b => some (if b then 1 else 0)
  | .int n => some n
  | _ => none

/-- The items of a value that is a list. -/
def listItems? (h : Heap) : Value → Option (List Value)
  | .ref a =>
    match h.cell? a with
    | some (.list items) => some items
    | _ => none
  | _ => none

end Value

/-- The name of the type of a cell. -/
def Cell.typeName : Cell → String
  | .list _ => "list"
  | .tuple _ => "tuple"
  | .dict _ => "dict"
  | .counter _ => "Counter"
  | .vector _ => "Vec"
  | .grumpy => "Grumpy"

/-- The name of the type of a value; `env` is that of the environment. -/
def Value.typeName (env : String) (h : Heap) : Value → String
  | .nil => "NoneType"
  | .bool _ => "bool"
  | .int _ => "int"
  | .float _ _ => "float"
  | .str _ none => "str"
  | .str _ (some _) => "StringValue"
  | .bytes _ => "bytes"
  | .ref a => (h.cell? a).elim "object" Cell.typeName
  | .environment => env

/-- Whether two values are one object. Scalars count as one object when they are equal; a double
that is not a number is one object only with itself. -/
def Value.isSame : Value → Value → Bool
  | .nil, .nil => true
  | .bool a, .bool b => a == b
  | .int a, .int b => a == b
  | .float x s, .float y t => x.toBits == y.toBits && s == t
  | .str a s, .str b t => a == b && s == t
  | .bytes a, .bytes b => a == b
  | .ref a, .ref b => a == b
  | .environment, .environment => true
  | _, _ => false

/-- The value of a literal. What is not a number has a stamp by its mark, and these are even. -/
def Literal.toValue : Literal → Value
  | .nil => .nil
  | .bool b => .bool b
  | .int n => .int n
  | .float x mark => .float x (2 * mark)

/-- A double that was computed. What is not a number has the given stamp, made odd. -/
def Value.computed (x : Float) (stamp : Nat) : Value := .float x (if x.isNaN then 2 * stamp + 1 else 0)

end Treewalk
