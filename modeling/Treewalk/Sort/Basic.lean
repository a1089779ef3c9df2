import Treewalk.Sort.Merge
import Treewalk.Sort.Run

/-!
# Sorting with an order that may fail

A list is cut into runs from the front, and neighbouring runs are merged in an order that keeps
their lengths balanced: the boundary between two runs has a *power*, the depth at which a halving of
the whole list would separate the middles of the two, and a boundary is merged away before one of
lower power is added.

`Treewalk.Sort.sort` gives the items in order, or, where a question failed, the order that was
reached and the failure.
-/

namespace Treewalk.Sort

variable {α ε : Type}

/-- A run that waits to be merged, and the power of the boundary behind it. -/
structure Waiting (α : Type) where
  items : Array α
  power : Nat

/-- The power of the boundary between neighbouring runs of `n₁` and `n₂` items, of which the first
starts at `start`, in a list of `total` items. -/
def boundaryPower (start n₁ n₂ total : Nat) : Nat :=
  bits (total + 1) (2 * start + n₁) (2 * start + 2 * n₁ + n₂)
where
  bits : (fuel a b : Nat) → Nat
    | 0, _, _ => 0
    | fuel + 1, a, b =>
      if total ≤ a then 1 + bits fuel (2 * (a - total)) (2 * (b - total))
      else if total ≤ b then 1
      else 1 + bits fuel (2 * a) (2 * b)

/-- The items of waiting runs in order; the runs are given the last one first. -/
def flattened (runs : List (Waiting α)) : List α := runs.reverse.flatMap (·.items.toList)

/-- The runs that wait, the last one first, with the patience learnt, or the items in the order they
were left in by a failure. -/
abbrev Progress (α ε : Type) := Except (List α × ε) (List (Waiting α) × Nat)

/-- Merges the last runs as long as the boundary between them has more than the given power. -/
def mergeAbove (less : α → α → Except ε Bool) (power : Nat) :
    (patience : Nat) → List (Waiting α) → Progress α ε
  | patience, last :: before :: rest =>
    if power < before.power then
      let o := merge less patience before.items last.items
      match o.failure with
      | some e => .error (flattened rest ++ o.items, e)
      | none => mergeAbove less power o.patience (⟨o.items.toArray, 0⟩ :: rest)
    else .ok (last :: before :: rest, patience)
  | patience, runs => .ok (runs, patience)
termination_by _ runs => runs.length

/-- Adds a run behind the others. -/
def addRun (less : α → α → Except ε Bool) (total patience : Nat) (runs : List (Waiting α))
    (run : List α) : Progress α ε :=
  match runs with
  | [] => .ok ([⟨run.toArray, 0⟩], patience)
  | last :: before =>
    let start := before.foldl (fun n waiting => n + waiting.items.size) 0
    let power := boundaryPower start last.items.size run.length total
    (mergeAbove less power patience runs).map fun
      | ([], patience) => ([⟨run.toArray, 0⟩], patience)
      | (last :: before, patience) =>
        (⟨run.toArray, 0⟩ :: { last with power := power } :: before, patience)

/-- Merges all runs into one. Of the last three the shorter neighbour of the middle one is merged
with it. -/
def mergeAll (less : α → α → Except ε Bool) :
    (patience : Nat) → List (Waiting α) → List α × Option ε
  | patience, last :: middle :: before :: rest =>
    if before.items.size < last.items.size then
      let o := merge less patience before.items middle.items
      match o.failure with
      | some e => (flattened rest ++ o.items ++ last.items.toList, some e)
      | none => mergeAll less o.patience (last :: ⟨o.items.toArray, 0⟩ :: rest)
    else
      let o := merge less patience middle.items last.items
      match o.failure with
      | some e => (flattened (before :: rest) ++ o.items, some e)
      | none => mergeAll less o.patience (⟨o.items.toArray, 0⟩ :: before :: rest)
  | patience, [last, before] =>
    let o := merge less patience before.items last.items
    (o.items, o.failure)
  | _, [last] => (last.items.toList, none)
  | _, [] => ([], none)
termination_by _ runs => runs.length

/-- Cuts a list into runs and merges them, behind the runs that wait already. Every round takes an
item at least. -/
def sortFrom (less : α → α → Except ε Bool) (total : Nat) :
    (fuel patience : Nat) → List (Waiting α) → List α → List α × Option ε
  | 0, _, runs, items => (flattened runs ++ items, none)
  | _, patience, runs, [] => mergeAll less patience runs
  | fuel + 1, patience, runs, x :: xs =>
    match makeRun less (leastRun total) (x :: xs) with
    | (run, rest, some e) => (flattened runs ++ run ++ rest, some e)
    | (run, rest, none) =>
      match addRun less total patience runs run with
      | .error (sorted, e) => (sorted ++ run ++ rest, some e)
      | .ok (runs, patience) => sortFrom less total fuel patience runs rest

/-- The items in order; where a question failed, how far it came and the failure. -/
def sort (less : α → α → Except ε Bool) (items : List α) : List α × Option ε :=
  sortFrom less items.length (items.length + 1) Merging.worthwhile [] items

end Treewalk.Sort
