import Treewalk.Host.World

/-!
# Comparing values

Equality is by value for scalars and containers and by identity for objects. Order exists between
numbers, between texts, between byte strings, and between lists or tuples item by item.
-/

namespace Treewalk

namespace Value

/-- The order of two numbers; none if one of them is not a number. -/
def Number.order : Number → Number → Option Ordering
  | .int a, .int b => some (compare a b)
  | .float x, .float y =>
    if x < y then some .lt else if y < x then some .gt else if x == y then some .eq else none
  | .int a, .float y => intOrder a y
  | .float x, .int b => (intOrder b x).map Ordering.swap
where
  intOrder (n : Int) (x : Float) : Option Ordering :=
    match Decimal.shape x with
    | .finite b => some (Decimal.compareInt n b)
    | .infinite negative => some (if negative then .gt else .lt)
    | .nan => none

/-- The order of two sequences of which one is compared item by item. -/
def listOrder {α : Type} (order : α → α → Ordering) : List α → List α → Ordering
  | [], [] => .eq
  | [], _ => .lt
  | _, [] => .gt
  | a :: as, b :: bs => (order a b).then (listOrder order as bs)

/-- The order of two texts, by code points. -/
def textOrder (a b : String) : Ordering :=
  listOrder (fun x y => compare x.toNat y.toNat) a.toList b.toList

/-- The order of two byte strings. -/
def octetOrder (a b : List UInt8) : Ordering :=
  listOrder (fun x y => compare x.toNat y.toNat) a b

end Value

namespace Heap

/-- Equality of two sequences: items are equal if they are one object or equal. -/
def equalItems (equal : Value → Value → Bool) : List Value → List Value → Bool
  | [], [] => true
  | a :: as, b :: bs => (a.isSame b || equal a b) && equalItems equal as bs
  | _, _ => false

/-- Whether every entry is equal to one of others. -/
def equalEntries (equal : Value → Value → Bool) (entries others : List (Value × Value)) : Bool :=
  entries.all fun e =>
    match others.find? fun o => o.1.isSame e.1 || equal o.1 e.1 with
    | some o => e.2.isSame o.2 || equal e.2 o.2
    | none => false

/-- Equality of two values, inside the containers at the given addresses. Two containers are not
equal if whether they are depends on themselves. -/
def equalIn (h : Heap) : (fuel : Nat) → (path : List (Nat × Nat)) → Value → Value → Bool
  | 0, _, _, _ => false
  | fuel + 1, path, a, b =>
    match a.number?, b.number? with
    | some x, some y => x.order y == some .eq
    | _, _ =>
      match a, b with
      | .nil, .nil => true
      | .str s _, .str t _ => s == t
      | .bytes s, .bytes t => s == t
      | .environment, .environment => true
      | .ref i, .ref j =>
        match h.cell? i, h.cell? j with
        | some (.list xs), some (.list ys) =>
          !path.contains (i, j) && equalItems (h.equalIn fuel ((i, j) :: path)) xs ys
        | some (.tuple xs), some (.tuple ys) =>
          !path.contains (i, j) && equalItems (h.equalIn fuel ((i, j) :: path)) xs ys
        | some (.dict xs), some (.dict ys) =>
          !path.contains (i, j) && xs.length == ys.length &&
            equalEntries (h.equalIn fuel ((i, j) :: path)) xs ys
        | _, _ => i == j
      | _, _ => false

/-- A bound for the depth of comparisons: there are no more pairs of addresses. -/
def span (h : Heap) : Nat := h.cells.size * h.cells.size + 1

/-- Whether two values are equal. Only two references lead further into the heap. -/
def same (h : Heap) (a b : Value) : Bool :=
  match a, b with
  | .ref _, .ref _ => h.equalIn h.span [] a b
  | _, _ => h.equalIn 1 [] a b

/-- Whether two values are one object or equal, as members of containers are compared. -/
def alike (h : Heap) (a b : Value) : Bool := a.isSame b || h.same a b

end Heap

/-- The four comparisons by order. -/
inductive Comparison where
  | lt
  | le
  | gt
  | ge
  deriving DecidableEq, Repr

namespace Comparison

/-- The sign of a comparison. -/
def sign : Comparison → String
  | .lt => "<"
  | .le => "<="
  | .gt => ">"
  | .ge => ">="

/-- Whether a comparison holds of an order. -/
def holds : Comparison → Ordering → Bool
  | .lt, o => o == .lt
  | .le, o => o != .gt
  | .gt, o => o == .gt
  | .ge, o => o != .lt

/-- Two values that have no order. -/
def mishap (w : World) (c : Comparison) (a b : Value) : Mishap :=
  .type ("'" ++ c.sign ++ "' not supported between instances of '" ++ w.typeName a ++ "' and '" ++
    w.typeName b ++ "'")

/-- Compares two sequences: the first items that differ decide, else the lengths. -/
def items (w : World) (c : Comparison) (decide : Value → Value → Except Mishap Bool) :
    List Value → List Value → Except Mishap Bool
  | [], [] => .ok (c.holds .eq)
  | [], _ :: _ => .ok (c.holds .lt)
  | _ :: _, [] => .ok (c.holds .gt)
  | a :: as, b :: bs => if w.heap.alike a b then items w c decide as bs else decide a b

/-- Compares two values, inside the containers at the given addresses. -/
def applyIn (w : World) (c : Comparison) :
    (fuel : Nat) → (path : List (Nat × Nat)) → Value → Value → Except Mishap Bool
  | 0, _, _, _ => .ok false
  | fuel + 1, path, a, b =>
    match a.number?, b.number? with
    | some x, some y => .ok ((x.order y).elim false c.holds)
    | _, _ =>
      match a, b with
      | .str s _, .str t _ => .ok (c.holds (Value.textOrder s t))
      | .bytes s, .bytes t => .ok (c.holds (Value.octetOrder s t))
      | .ref i, .ref j =>
        match w.heap.cell? i, w.heap.cell? j with
        | some (.list xs), some (.list ys) =>
          if path.contains (i, j) then .ok false
          else items w c (applyIn w c fuel ((i, j) :: path)) xs ys
        | some (.tuple xs), some (.tuple ys) =>
          if path.contains (i, j) then .ok false
          else items w c (applyIn w c fuel ((i, j) :: path)) xs ys
        | _, _ => .error (c.mishap w a b)
      | _, _ => .error (c.mishap w a b)

/-- Whether a comparison of two values holds. -/
def test (w : World) (c : Comparison) (a b : Value) : Except Mishap Bool :=
  c.applyIn w w.heap.span [] a b

end Comparison

namespace World

/-- Whether a value counts as true: zero, empty texts and containers and nil do not. -/
def truthy (w : World) : Value → Except Mishap Bool
  | .nil => .ok false
  | .bool b => .ok b
  | .int n => .ok (n != 0)
  | .float x _ => .ok (x != 0)
  | .str s _ => .ok (s != "")
  | .bytes bs => .ok !bs.isEmpty
  | .environment => .ok true
  | .ref a =>
    match w.heap.cell? a with
    | some (.list items) | some (.tuple items) => .ok !items.isEmpty
    | some (.dict entries) => .ok !entries.isEmpty
    | some .grumpy => .error ⟨.condition, "no opinion"⟩
    | _ => .ok true

/-- Finds why a value is no key of a dictionary, inside the tuples at the given addresses: it can
change, or holds what can. -/
def keyFault (w : World) : (fuel : Nat) → (path : List Nat) → Value → Option Mishap
  | 0, _, _ => none
  | fuel + 1, path, .ref a =>
    match w.heap.cell? a with
    | some (.list _) => some (.type "unhashable type: 'list'")
    | some (.dict _) => some (.type "unhashable type: 'dict'")
    | some (.tuple items) =>
      if path.contains a then none else items.findSome? (w.keyFault fuel (a :: path))
    | _ => none
  | _, _, _ => none

/-- Refuses a value that is no key of a dictionary. -/
def checkKey (w : World) (v : Value) : Except Mishap Unit :=
  match w.keyFault (w.heap.cells.size + 1) [] v with
  | some m => .error m
  | none => .ok ()

/-- The entry of a dictionary under a key. -/
def findEntry (w : World) (key : Value) (entries : List (Value × Value)) : Option Value :=
  (entries.find? fun e => w.heap.alike e.1 key).map (·.2)

/-- Puts an entry into a dictionary: a key that is there keeps its place. -/
def putEntry (w : World) (key value : Value) : List (Value × Value) → List (Value × Value)
  | [] => [(key, value)]
  | (k, v) :: rest =>
    if w.heap.alike k key then (k, value) :: rest else (k, v) :: w.putEntry key value rest

/-- A dictionary's entries without the one under a key. -/
def dropEntry (w : World) (key : Value) (entries : List (Value × Value)) : List (Value × Value) :=
  entries.filter fun e => !w.heap.alike e.1 key

/-- A key that a dictionary does not have. -/
def missingKey (w : World) (key : Value) : Mishap :=
  match w.shown key with
  | .ok s => ⟨.key, s⟩
  | .error _ => .unwritableKey

end World

end Treewalk
