import Treewalk.Sort.Gallop

/-!
# Runs

A *run* is a sorted stretch. The run at the front of a list that rises, or strictly falls, is taken
as it stands (`Treewalk.Sort.frontRun`), a falling one is turned around, and a run that is too short
takes in the items behind it one by one.
-/

namespace Treewalk.Sort

variable {α ε : Type}

/-- How many items go on from the one before as the run began. -/
def runFrom (less : α → α → Except ε Bool) (falling : Bool) : α → List α → Except ε Nat
  | _, [] => .ok 0
  | before, x :: xs => do
    if (← less x before) == falling then return (← runFrom less falling x xs) + 1
    else return 0

/-- Whether the run at the front falls, and its length. -/
def frontRun (less : α → α → Except ε Bool) : List α → Except ε (Bool × Nat)
  | x :: y :: rest => do
    let falling ← less y x
    return (falling, (← runFrom less falling y rest) + 2)
  | xs => .ok (false, xs.length)

/-- The place of an item among sorted ones, behind its equals. -/
def placeIn (less : α → α → Except ε Bool) (x : α) (sorted : Array α) : Except ε Nat :=
  halve (fun i => sorted[i]?.elim (.ok false) fun y => not <$> less x y) 0 sorted.size

/-- Puts items one by one into sorted ones; where a question failed, how far it came and the
failure. -/
def insertAll (less : α → α → Except ε Bool) : Array α → List α → List α × Option ε
  | sorted, [] => (sorted.toList, none)
  | sorted, x :: xs =>
    match placeIn less x sorted with
    | .error e => (sorted.toList ++ x :: xs, some e)
    | .ok i =>
      insertAll less ((sorted.extract 0 i).push x ++ sorted.extract i sorted.size) xs

/-- Makes a run of at least `least` items at the front of a list, or of all of them if there are
fewer: the run, what follows it, and the failure if a question failed. -/
def makeRun (less : α → α → Except ε Bool) (least : Nat) (items : List α) :
    List α × List α × Option ε :=
  match frontRun less items with
  | .error e => ([], items, some e)
  | .ok (falling, n) =>
    let run := items.take n
    let (run, failure) := insertAll less (if falling then run.reverse else run).toArray
      ((items.take least).drop n)
    (run, items.drop (max n least), failure)

/-- The least length of the runs of a list with the given number of items: the number of runs is
then a power of two, or just below one. -/
def leastRun (n : Nat) : Nat := halved 0 n
where
  halved (odd n : Nat) : Nat :=
    if n < 64 then n + odd else halved (odd ||| n % 2) (n / 2)
  termination_by n

end Treewalk.Sort
