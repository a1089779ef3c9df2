import Treewalk.Method.Basic
import Treewalk.Sort.Basic

/-!
# What containers can do

The capabilities of lists, tuples and dictionaries, by name. Those of lists and dictionaries that
change their receiver change the cell that all references to it share.
-/

namespace Treewalk

/-! ### Lists -/

namespace ListMethod

/-- What a list in a cell answers: it is given the cell's address, the items and the arguments. -/
abbrev Reply := Nat → List Value → List Value → Act Value

/-- Replaces the items and answers nil. -/
def become (a : Nat) (items : List Value) : Act Value := do
  Act.store a (.list items)
  return .nil

/-- Adds an item at the end. -/
def append : Reply := fun a items args => become a (items ++ args.take 1)

/-- Removes all items. -/
def clear : Reply := fun a _ _ => become a []

/-- A new list of the same items. -/
def copy : Reply := fun _ items _ => Act.answer (.list items)

/-- How often an item occurs. -/
def count : Reply := fun _ items args => do
  let w ← get
  return .int (items.countP fun x => args.any fun v => w.heap.alike x v)

/-- Adds the items of the argument at the end. -/
def extend : Reply := fun a items args => do
  let more ← Act.read fun w => w.items (args.headD .nil)
  become a (items ++ more)

/-- Puts an item in front of a position, which is kept inside the list. -/
def insert : Reply := fun a items args => do
  let i ← Act.read fun w => w.size (args.headD .nil)
  let n : Int := items.length
  let i := (if i < 0 then max (i + n) 0 else min i n).toNat
  become a (items.take i ++ args.drop 1 ++ items.drop i)

/-- Takes out the item at a position, which is counted from the end if it is negative. -/
def popAt (a : Nat) (items : List Value) (i : Int) : Act Value :=
  if items.isEmpty then Act.fail (.index "pop from empty list")
  else
    let i := if i < 0 then i + items.length else i
    if i < 0 then Act.fail (.index "pop index out of range")
    else
      match items[i.toNat]? with
      | none => Act.fail (.index "pop index out of range")
      | some v => do
        Act.store a (.list (items.eraseIdx i.toNat))
        return v

/-- Takes out the item at a position, the last one if none is given. -/
def pop : Reply := fun a items args => do
  match args with
  | v :: _ => popAt a items (← Act.read fun w => w.size v)
  | [] => popAt a items (-1)

/-- Takes out the first item that equals the argument. -/
def remove : Reply := fun a items args => do
  let w ← get
  match items.findIdx? fun x => args.any fun v => w.heap.alike x v with
  | some i => become a (items.eraseIdx i)
  | none => Act.fail (.value "list.remove(x): x not in list")

/-- Turns the list around. -/
def reverse : Reply := fun a items _ => become a items.reverse

/-- The item at a position. -/
def itemAt (items : Array Value) (i : Nat) : Value := items[i]?.getD .nil

/-- Sorts the list: its positions are put in the order of their items. Where two items have no
order, it is left as far as it came. -/
def sort : Reply := fun a items _ => do
  let w ← get
  let held := itemAt items.toArray
  let (sorted, mishap) :=
    Sort.sort (fun i j => Comparison.lt.test w (held i) (held j)) (List.range items.length)
  Act.store a (.list (sorted.map held))
  match mishap with
  | some m => Act.fail m
  | none => return .nil

/-- The capabilities of lists. -/
def table : List (String × Option Signature × Reply) :=
  [("append", takes 1, append),
   ("clear", takes 0, clear),
   ("copy", takes 0, copy),
   ("count", takes 1, count),
   ("extend", takes 1, extend),
   ("insert", takes 2, insert),
   ("pop", takesUpTo 0 1, pop),
   ("remove", takes 1, remove),
   ("reverse", takes 0, reverse),
   ("sort", takes 0, sort)]

end ListMethod

/-- The capability of a list with a name. -/
def listMethod? (a : Nat) (items : List Value) (name : String) : Option Capability :=
  (ListMethod.table.lookup name).map fun (signature, reply) => .acting signature (reply a items)

/-! ### Tuples -/

/-- The capability of a tuple with a name. -/
def tupleMethod? (items : List Value) (name : String) : Option Capability :=
  if name = "count" then some (.acting (takes 1) (ListMethod.count 0 items)) else none

/-! ### Dictionaries -/

namespace DictMethod

/-- The entries of a dictionary. -/
abbrev Entries := List (Value × Value)

/-- What a dictionary in a cell answers: it is given the reference to the cell, its address, the
entries and the arguments. -/
abbrev Reply := Value → Nat → Entries → List Value → Act Value

/-- A key, and what stands for its value when it is missing. -/
def keyed (args : List Value) : Value × Value := (args.headD .nil, args.getD 1 .nil)

/-- The value under a key. -/
def get : Reply := fun _ _ entries args => do
  let (key, usual) := keyed args
  Act.read fun w => do
    w.checkKey key
    return (w.findEntry key entries).getD usual

/-- The value under a key, which is put there if it is missing. -/
def setDefault : Reply := fun _ a entries args => do
  let (key, usual) := keyed args
  Act.read fun w => w.checkKey key
  let w ← EStateM.get
  match w.findEntry key entries with
  | some v => return v
  | none =>
    Act.store a (.dict (entries ++ [(key, usual)]))
    return usual

/-- Takes out the value under a key. -/
def pop : Reply := fun _ a entries args => do
  Act.lift (expectArguments "pop" 1 2 args)
  let key := args.headD .nil
  if !entries.isEmpty then Act.read fun w => w.checkKey key
  let w ← EStateM.get
  match w.findEntry key entries, args[1]? with
  | some v, _ =>
    Act.store a (.dict (w.dropEntry key entries))
    return v
  | none, some usual => return usual
  | none, none => Act.fail (w.missingKey key)

/-- Takes out the entry that was put in last. -/
def popItem : Reply := fun _ a entries _ => do
  match entries.getLast? with
  | none => Act.fail ⟨.key, Text.quote "popitem(): dictionary is empty"⟩
  | some (k, v) =>
    Act.store a (.dict entries.dropLast)
    Act.answer (.tuple [k, v])

/-- Removes all entries. -/
def clear : Reply := fun v a _ args => do
  Act.read fun w => refuseArguments w v "clear" args
  Act.store a (.dict [])
  return .nil

/-- A new dictionary of the same entries. -/
def copy : Reply := fun v _ entries args => do
  Act.read fun w => refuseArguments w v "copy" args
  Act.answer (.dict entries)

/-- A pair that an item of an argument stands for. -/
def pairOf (w : World) (index : Nat) (v : Value) : Except Mishap (Value × Value) :=
  match w.items? v with
  | none => .error (.type ("cannot convert dictionary update sequence element #" ++
      toString index ++ " to a sequence"))
  | some [k, v] => .ok (k, v)
  | some items => .error (.value ("dictionary update sequence element #" ++ toString index ++
      " has length " ++ toString items.length ++ "; 2 is required"))

/-- Puts in the pairs that items stand for, one by one. -/
def putPairs (a : Nat) : (index : Nat) → Entries → List Value → Act Unit
  | _, _, [] => return ()
  | i, entries, item :: rest => do
    let (k, v) ← Act.read fun w => do
      let (k, v) ← pairOf w i item
      w.checkKey k
      return (k, v)
    let w ← EStateM.get
    let entries := w.putEntry k v entries
    Act.store a (.dict entries)
    putPairs a (i + 1) entries rest

/-- The entries of a value that is a dictionary. -/
def entries? (w : World) : Value → Option Entries
  | .ref a =>
    match w.heap.cell? a with
    | some (.dict entries) => some entries
    | _ => none
  | _ => none

/-- Puts in the entries of another dictionary, or the pairs of the argument's items. -/
def update : Reply := fun _ a entries args => do
  Act.lift (expectArguments "update" 0 1 args)
  match args with
  | [] => return .nil
  | v :: _ =>
    let w ← EStateM.get
    match entries? w v with
    | some others =>
      Act.store a (.dict (others.foldl (fun es e => w.putEntry e.1 e.2 es) entries))
      return .nil
    | none =>
      putPairs a 0 entries (← Act.lift (w.items v))
      return .nil

/-- A new dictionary in which the items of an argument all have the same value. -/
def fromKeys : Reply := fun _ _ _ args => do
  let (source, value) := keyed args
  let entries ← Act.read fun w => do
    let keys ← w.items source
    keys.forM w.checkKey
    return keys.foldl (fun es k => w.putEntry k value es) []
  Act.answer (.dict entries)

/-- The capabilities of dictionaries. -/
def table : List (String × Option Signature × Reply) :=
  [("get", takesUpTo 1 1, get),
   ("setdefault", takesUpTo 1 1, setDefault),
   ("popitem", takes 0, popItem),
   ("pop", none, pop),
   ("clear", none, clear),
   ("copy", none, copy),
   ("update", none, update),
   ("fromkeys", takesUpTo 1 1, fromKeys)]

end DictMethod

/-- The capability of a dictionary with a name. -/
def dictMethod? (a : Nat) (entries : DictMethod.Entries) (name : String) : Option Capability :=
  if name ∈ ["keys", "values", "items"] then some (.closed none)
  else (DictMethod.table.lookup name).map fun (signature, reply) =>
    .acting signature (reply (.ref a) a entries)

end Treewalk
