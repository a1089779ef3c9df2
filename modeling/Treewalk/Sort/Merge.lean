import Treewalk.Sort.Gallop

/-!
# Merging two runs

Two neighbouring runs are merged item by item, from the front or from the back. When one of them
wins often enough in a row, whole stretches are searched for and moved at once; how often is enough
is learnt from how well that went before, and is called *patience* here.

`Treewalk.Sort.merge` gives the merged runs, or how far it came when a question failed: nothing is
lost then.
-/

namespace Treewalk.Sort

variable {α ε : Type}

/-- What became of a merge: the items, the patience learnt, and the failure if a question failed. -/
structure Outcome (α ε : Type) where
  items : List α
  patience : Nat
  failure : Option ε

/-- The two ends from which runs can be merged. -/
inductive Direction where
  | forward
  | backward
  deriving DecidableEq, Repr

/-- The two runs. -/
inductive Side where
  | first
  | second
  deriving DecidableEq, Repr

/-- The next item of a stretch. -/
def Stretch.next? (d : Direction) (s : Stretch α) : Option α :=
  match d with
  | .forward => s.get? 0
  | .backward => s.get? (s.size - 1)

/-- Cuts the next items off a stretch. -/
def Stretch.cut (d : Direction) (n : Nat) (s : Stretch α) : List α × Stretch α :=
  match d with
  | .forward => ((s.items.extract s.low (s.low + n)).toList, { s with low := s.low + n })
  | .backward => ((s.items.extract (s.high - n) s.high).toList, { s with high := s.high - n })

/-- The number of items, in the direction of merging, that go before a place. -/
def Stretch.ahead (d : Direction) (isBefore : α → Except ε Bool) (s : Stretch α) : Except ε Nat :=
  match d with
  | .forward => gallop isBefore s 0
  | .backward => do return s.size - (← gallop isBefore s (s.size - 1))

/-- Two runs that are being merged, and what has been merged already; in forward direction the last
one first. -/
structure Merging (α : Type) where
  first : Stretch α
  second : Stretch α
  out : List α

namespace Merging

/-- Moves the next items of a run to what has been merged. -/
def take (d : Direction) (side : Side) (n : Nat) (m : Merging α) : Merging α :=
  match side with
  | .first =>
    let (taken, rest) := m.first.cut d n
    { m with first := rest, out := onto taken }
  | .second =>
    let (taken, rest) := m.second.cut d n
    { m with second := rest, out := onto taken }
where
  onto (taken : List α) : List α :=
    match d with
    | .forward => taken.reverse ++ m.out
    | .backward => taken ++ m.out

/-- All items, with those left over in the order of the runs. -/
def assembled (d : Direction) (m : Merging α) : List α :=
  match d with
  | .forward => m.out.reverse ++ m.first.toList ++ m.second.toList
  | .backward => m.first.toList ++ m.second.toList ++ m.out

/-- All items, with those left over of the second run before those of the first. -/
def exchanged (d : Direction) (m : Merging α) : List α :=
  match d with
  | .forward => m.out.reverse ++ m.second.toList ++ m.first.toList
  | .backward => m.second.toList ++ m.first.toList ++ m.out

/-- All items in order, if that is settled: one run is used up, or only the item is left that was
known to come last. -/
def settled? (d : Direction) (m : Merging α) : Option (List α) :=
  let (kept, other) := match d with
    | .forward => (m.first.size, m.second.size)
    | .backward => (m.second.size, m.first.size)
  if other = 0 then some (m.assembled d)
  else if kept = 1 then some (m.exchanged d)
  else if kept = 0 then some (m.assembled d)
  else none

/-- A stage of merging, which may settle the outcome. -/
abbrev Stage (α ε : Type) := Except (Outcome α ε)

/-- Goes on with an answer, or ends with the failure. -/
def ask {β : Type} (d : Direction) (patience : Nat) (m : Merging α) (answer : Except ε β) :
    Stage α ε β :=
  answer.mapError fun e => ⟨m.assembled d, patience, some e⟩

/-- Moves items, and ends if that settles the order. -/
def move (d : Direction) (patience : Nat) (side : Side) (n : Nat) (m : Merging α) :
    Stage α ε (Merging α) :=
  let m := m.take d side n
  match m.settled? d with
  | some items => .error ⟨items, patience, none⟩
  | none => .ok m

/-- How merging goes on: item by item, with the number of times that each run has just won in a row,
or by stretches. -/
inductive Pace where
  | steps (first second : Nat)
  | leaps

/-- Stretches at least as long as this are worth a search. -/
def worthwhile : Nat := 7

/-- Merges the next item. -/
def step (less : α → α → Except ε Bool) (d : Direction) (patience won₁ won₂ : Nat)
    (m : Merging α) (x y : α) : Stage α ε (Nat × Pace × Merging α) := do
  let falls ← m.ask d patience (less y x)
  let side : Side := if falls == (d == .forward) then .second else .first
  let m ← m.move d patience side 1
  let (won₁, won₂) := match side with
    | .first => (won₁ + 1, 0)
    | .second => (0, won₂ + 1)
  return (patience, if patience ≤ max won₁ won₂ then .leaps else .steps won₁ won₂, m)

/-- Merges the next stretch of each run. `y` is the next item of the second one. -/
def leap (less : α → α → Except ε Bool) (d : Direction) (patience : Nat) (m : Merging α) (y : α) :
    Stage α ε (Nat × Pace × Merging α) := do
  let n₁ ← m.ask d patience (m.first.ahead d fun x => not <$> less y x)
  let m ← m.move d patience .first n₁
  let m ← m.move d patience .second 1
  let n₂ ← m.ask d patience
    (m.second.ahead d fun z => (m.first.next? d).elim (.ok false) fun x => less z x)
  let m ← m.move d patience .second n₂
  let m ← m.move d patience .first 1
  if worthwhile ≤ max n₁ n₂ then return (max 1 (patience - 1), .leaps, m)
  else return (patience + 1, .steps 0 0, m)

/-- Merges what is left of two runs. Every round moves an item, so that as many rounds as there are
items are enough. -/
def run (less : α → α → Except ε Bool) (d : Direction) :
    (fuel patience : Nat) → Pace → Merging α → Outcome α ε
  | 0, patience, _, m => ⟨m.assembled d, patience, none⟩
  | fuel + 1, patience, pace, m =>
    match m.first.next? d, m.second.next? d with
    | some x, some y =>
      let round : Stage α ε (Nat × Pace × Merging α) := match pace with
        | .steps won₁ won₂ => m.step less d patience won₁ won₂ x y
        | .leaps => m.leap less d patience y
      match round with
      | .ok (patience, pace, m) => run less d fuel patience pace m
      | .error outcome => outcome
    | _, _ => ⟨m.assembled d, patience, none⟩

/-- Merges two runs of which the second begins below the last item of the first, and the first ends
above the first item of the second. -/
def runAll (less : α → α → Except ε Bool) (patience : Nat) (m : Merging α) : Outcome α ε :=
  let d : Direction := if m.first.size ≤ m.second.size then .forward else .backward
  let begun : Stage α ε (Merging α) := m.move d patience (if d = .forward then .second else .first) 1
  match begun with
  | .ok begun => begun.run less d (m.first.size + m.second.size) patience (.steps 0 0)
  | .error outcome => outcome

end Merging

/-- Merges two neighbouring runs. What is in its place already at either end is left there. -/
def merge (less : α → α → Except ε Bool) (patience : Nat) (a b : Array α) : Outcome α ε :=
  let unchanged (failure : Option ε) : Outcome α ε := ⟨a.toList ++ b.toList, patience, failure⟩
  match b[0]?, a.back? with
  | some y, some x =>
    match gallop (fun z => not <$> less y z) (.whole a) 0 with
    | .error e => unchanged (some e)
    | .ok n =>
      if a.size ≤ n then unchanged none
      else
        match gallop (fun z => less z x) (.whole b) (b.size - 1) with
        | .error e => unchanged (some e)
        | .ok k =>
          if k = 0 then unchanged none
          else
            let o := Merging.runAll less patience ⟨⟨a, n, a.size⟩, ⟨b, 0, k⟩, []⟩
            { o with items := (a.extract 0 n).toList ++ o.items ++ (b.extract k b.size).toList }
  | _, _ => unchanged none

end Treewalk.Sort
