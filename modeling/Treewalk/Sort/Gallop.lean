/-!
# Searching with an order that may fail

To find the place of an item in a sorted stretch, the order is asked about items that lie ever
further from a hint, and then by halving what is left between two of them. The questions come in a
fixed sequence, since asking may fail and the order may be none at all.

* `Treewalk.Sort.halve` – the place between two positions;
* `Treewalk.Sort.gallop` – the place in a stretch, searched from a hint.
-/

namespace Treewalk.Sort

variable {α ε : Type}

/-- The part of an array between two positions. -/
structure Stretch (α : Type) where
  items : Array α
  low : Nat
  high : Nat

namespace Stretch

/-- A whole array. -/
def whole (items : Array α) : Stretch α := ⟨items, 0, items.size⟩

/-- The number of items. -/
def size (s : Stretch α) : Nat := s.high - s.low

/-- The item at a position, counted from the start of the stretch. -/
def get? (s : Stretch α) (i : Nat) : Option α :=
  if s.low + i < s.high then s.items[s.low + i]? else none

/-- The items in order. -/
def toList (s : Stretch α) : List α := (s.items.extract s.low s.high).toList

end Stretch

/-- The first position from `low` on that is not before the place, by halving. -/
def halve (isBefore : Nat → Except ε Bool) (low high : Nat) : Except ε Nat :=
  if low < high then do
    let middle := low + (high - low) / 2
    if ← isBefore middle then halve isBefore (middle + 1) high
    else halve isBefore low middle
  else .ok high
termination_by high - low

/-- How far to stride from a hint: the last distance at which the answer was yes, and the first one
at which it was not, or the limit. Distances grow from one to twice and one more. -/
def stride (goesOn : Nat → Except ε Bool) (limit last distance : Nat) : Except ε (Nat × Nat) :=
  if distance < limit then do
    if ← goesOn distance then stride goesOn limit distance (2 * distance + 1)
    else return (last, distance)
  else return (last, min distance limit)
termination_by limit - distance

/-- The number of items in front of a place in a stretch, searched from a hint. -/
def gallop (isBefore : α → Except ε Bool) (s : Stretch α) (hint : Nat) : Except ε Nat := do
  let ask (i : Nat) : Except ε Bool := (s.get? i).elim (.ok false) isBefore
  if ← ask hint then
    let (last, distance) ← stride (fun n => ask (hint + n)) (s.size - hint) 0 1
    halve ask (hint + last + 1) (hint + distance)
  else
    let (last, distance) ← stride (fun n => not <$> ask (hint - n)) (hint + 1) 0 1
    halve ask (hint + 1 - distance) (hint - last)

end Treewalk.Sort
