import Treewalk.Value.Basic

/-!
# Pictures of values

`Treewalk.Heap.picture` follows the references of a value as far as they lead without going around a
cycle.
-/

namespace Treewalk

namespace Heap

/-- The picture of a value, inside the containers at the given addresses; `env` stands for the
environment. -/
def pictureIn (h : Heap) (env : String) : (fuel : Nat) → (path : List Nat) → Value → Picture
  | 0, _, _ => .cycle .list
  | fuel + 1, path, v =>
    match v with
    | .nil => .nil
    | .bool b => .bool b
    | .int n => .int n
    | .float x _ => .float x
    | .str s _ => .str s
    | .bytes bs => .bytes bs
    | .environment => .environment env
    | .ref a =>
      match h.cell? a with
      | some (.list items) =>
        if path.contains a then .cycle .list
        else .list (items.map (h.pictureIn env fuel (a :: path)))
      | some (.tuple items) =>
        if path.contains a then .cycle .tuple
        else .tuple (items.map (h.pictureIn env fuel (a :: path)))
      | some (.dict entries) =>
        if path.contains a then .cycle .dict
        else .dict (entries.map fun e =>
          (h.pictureIn env fuel (a :: path) e.1, h.pictureIn env fuel (a :: path) e.2))
      | some (.counter n) => .counter (h.pictureIn env fuel path n)
      | some (.vector x) => .vector (h.pictureIn env fuel path x)
      | some .grumpy | none => .grumpy

/-- The picture of a value. -/
def picture (h : Heap) (env : String) (v : Value) : Picture := h.pictureIn env (h.depth + 1) [] v

end Heap

end Treewalk
