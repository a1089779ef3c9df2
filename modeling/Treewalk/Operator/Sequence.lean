import Treewalk.Operator.Arithmetic

/-!
# Joining, repeating and subscripting

Texts, byte strings, lists and tuples can be joined with their like, repeated, and subscripted. A
joined or repeated list is a new one even if it equals an operand.
-/

namespace Treewalk

/-- What a value is as a sequence. -/
inductive Sequence where
  | text (s : String)
  | octets (bs : List UInt8)
  | list (items : List Value)
  | tuple (items : List Value)

namespace Sequence

/-- The name of the sequence's type where items of a wrong type are refused. -/
def title : Sequence → String
  | .text _ => "str"
  | .octets _ => "bytes"
  | .list _ => "list"
  | .tuple _ => "tuple"

/-- The largest position in a sequence. -/
def maxIndex : Int := 0x7fffffffffffffff

/-- Whether an integer is too far from zero for a position. -/
def isHuge (n : Int) : Bool := maxIndex < n || n < -maxIndex - 1

/-- What an integer too far from zero is told. -/
def hugeText : String := "cannot fit 'int' into an index-sized integer"

/-- A sequence repeated. -/
def repeated (n : Nat) : Sequence → Answer
  | .text s => .text (if s = "" then s else String.join (List.replicate n s))
  | .octets bs => .known (.bytes (times bs))
  | .list items => .list (times items)
  | .tuple items => .tuple (times items)
where
  times {α : Type} (xs : List α) : List α :=
    if xs.isEmpty then [] else (List.replicate n xs).flatten

/-- The number of items. -/
def length : Sequence → Nat
  | .text s => s.length
  | .octets bs => bs.length
  | .list items | .tuple items => items.length

/-- The item at a position. -/
def item? (s : Sequence) (i : Nat) : Option Answer :=
  match s with
  | .text s => s.toList[i]?.map fun c => .chars [c]
  | .octets bs => bs[i]?.map fun b => .int b.toNat
  | .list items | .tuple items => items[i]?.map .known

/-- A position outside a sequence. -/
def outOfRange : Sequence → Mishap
  | .text _ => .index "string index out of range"
  | .octets _ => .index "index out of range"
  | .list _ => .index "list index out of range"
  | .tuple _ => .index "tuple index out of range"

/-- A subscript that is no integer. -/
def badIndex (s : Sequence) (typeName : String) : Mishap :=
  .type <| match s with
  | .text _ => "string indices must be integers, not '" ++ typeName ++ "'"
  | .octets _ => "byte indices must be integers or slices, not " ++ typeName
  | .list _ => "list indices must be integers or slices, not " ++ typeName
  | .tuple _ => "tuple indices must be integers or slices, not " ++ typeName

/-- The item under an index; a negative one counts from the end. -/
def subscript (w : World) (s : Sequence) (i : Value) : Except Mishap Answer :=
  match i.int? with
  | none => .error (s.badIndex (w.typeName i))
  | some n =>
    if isHuge n then .error (.index hugeText)
    else
      let n := if n < 0 then n + s.length else n
      if n < 0 then .error s.outOfRange
      else match s.item? n.toNat with
        | some a => .ok a
        | none => .error s.outOfRange

end Sequence

namespace World

/-- The sequence that a value is, if it is one. -/
def sequence? (w : World) : Value → Option Sequence
  | .str s _ => some (.text s)
  | .bytes bs => some (.octets bs)
  | .ref a =>
    match w.heap.cell? a with
    | some (.list items) => some (.list items)
    | some (.tuple items) => some (.tuple items)
    | _ => none
  | _ => none

/-- Joins a sequence with a value, which has to be its like. -/
def concat (w : World) (s : Sequence) (v : Value) : Except Mishap Answer :=
  match s, w.sequence? v with
  | .text a, some (.text b) => .ok (.text (a ++ b))
  | .octets a, some (.octets b) => .ok (.known (.bytes (a ++ b)))
  | .list a, some (.list b) => .ok (.list (a ++ b))
  | .tuple a, some (.tuple b) => .ok (.tuple (a ++ b))
  | .octets _, _ => .error (.type ("can't concat " ++ w.typeName v ++ " to bytes"))
  | s, _ => .error (.type ("can only concatenate " ++ s.title ++ " (not \"" ++ w.typeName v ++
      "\") to " ++ s.title))

/-- Repeats a sequence as often as a value says. -/
def repeatBy (w : World) (s : Sequence) (count : Value) : Except Mishap Answer :=
  match count.int? with
  | none => .error (.type ("can't multiply sequence by non-int of type '" ++ w.typeName count ++ "'"))
  | some n =>
    if Sequence.isHuge n then .error (.overflow Sequence.hugeText)
    else .ok (s.repeated n.toNat)

end World

end Treewalk
