import Treewalk.Fault

/-!
# The bridge to the surroundings

The evaluator never looks inside a value. It asks a `Treewalk.Bridge` whether a target has a
capability of some name, what invoking it gives, and whether a value counts as true. `V` is the type
of values and `W` the state of the surroundings; every question may change that state, also when it
ends in a fault.
-/

namespace Treewalk

/-- A question to the surroundings, whose state is `W`. -/
abbrev Ask (W : Type) := EStateM Fault W

namespace Ask

variable {W α β : Type} {x : Ask W α} {f : α → Ask W β} {w w' : W}

/-- A question that is answered goes on with the answer. -/
theorem bind_of_ok {a : α} (h : x w = .ok a w') : (x >>= f) w = f a w' := by
  change EStateM.bind x f w = f a w'
  simp only [EStateM.bind, h]

/-- After a fault nothing more is asked. -/
theorem bind_of_error {fault : Fault} (h : x w = .error fault w') :
    (x >>= f) w = .error fault w' := by
  change EStateM.bind x f w = .error fault w'
  simp only [EStateM.bind, h]

end Ask

/-- Who invokes a capability: the name of the active frame and the depth of the frame stack. -/
structure Activation where
  frame : String
  depth : Nat

/-- Something that was put out while a program ran. -/
structure Effect where
  topics : List String
  message : String
  deriving DecidableEq, Repr

/-- What surroundings give without being asked for a capability: how values are made and looked at,
and what was put out. -/
structure Surroundings (V W : Type) where
  /-- The value of statements that yield nothing. -/
  nil : V
  /-- The value of a literal. -/
  literal : Literal → V
  /-- A new text, different from every other. -/
  text : String → W → V × W
  /-- The name of a value's type, for traces. -/
  typeName : W → V → String
  /-- Whether a value counts as true. -/
  truthy : V → Ask W Bool
  /-- What was put out since it was last cleared. -/
  effects : W → List Effect
  /-- Forgets what was put out. -/
  clear : W → W

/-- What the evaluator needs from its surroundings. -/
structure Bridge (V W : Type) extends Surroundings V W where
  /-- The target of global routines. -/
  environment : V
  /-- Whether a target has a capability. -/
  has : V → String → Ask W Bool
  /-- Invokes a capability of a target. -/
  invoke : Activation → V → String → List V → Ask W V

/-- An invocation, with the state of the surroundings at that moment. -/
structure Invocation (V W : Type) where
  target : V
  name : String
  args : List V
  before : W

namespace Bridge

variable {V W L : Type}

/-- Asks a question of surroundings that are a part of larger ones. -/
def onFirst {α : Type} (x : Ask W α) : Ask (W × L) α := fun (w, l) =>
  match x w with
  | .ok a w => .ok a (w, l)
  | .error f w => .error f (w, l)

/-- The same bridge, with something beside the surroundings that nobody touches. -/
def beside (L : Type) (b : Bridge V W) : Bridge V (W × L) where
  environment := b.environment
  nil := b.nil
  literal := b.literal
  text s := fun (w, log) => let (v, w) := b.text s w; (v, w, log)
  typeName w v := b.typeName w.1 v
  has target name := onFirst (b.has target name)
  invoke activation target name args := onFirst (b.invoke activation target name args)
  truthy v := onFirst (b.truthy v)
  effects w := b.effects w.1
  clear w := (b.clear w.1, w.2)

/-- The same bridge, which also records every invocation, the last one first. -/
def recorded (b : Bridge V W) : Bridge V (W × List (Invocation V W)) :=
  { b.beside (List (Invocation V W)) with
    invoke := fun activation target name args (w, log) =>
      onFirst (b.invoke activation target name args) (w, ⟨target, name, args, w⟩ :: log) }

end Bridge

end Treewalk
