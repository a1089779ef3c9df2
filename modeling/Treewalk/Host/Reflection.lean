import Treewalk.Operator.Table

/-!
# Reflection

A `Treewalk.Reflection` is what can be found out about a host by looking at it: which value is its
environment, which routines are marked there or were registered later, which operators suit a value
and which methods it has. `Treewalk.Reflection.bridge` answers the questions of the evaluator from
that and from nothing else, so what the environment has beside its routines stays out of reach.
-/

namespace Treewalk

/-- What a host shows of itself; `C` is the type of what can be invoked. To look a capability up is
to read off the world: it is taken neither to fail nor to change anything, which holds of a host
whose attributes are plain ones and are not computed when somebody looks for them. -/
structure Reflection (V W C : Type) extends Surroundings V W where
  /-- The target of global routines. -/
  environment : V
  /-- Whether a value is the environment itself. -/
  isEnvironment : V → Bool
  isEnvironment_environment : isEnvironment environment = true
  /-- The routine that was registered under a name. -/
  registered? : W → String → Option C
  /-- The routine of the environment that is marked as one and has a name. -/
  marked? : W → String → Option C
  /-- Whether a value is of a type that an operator is defined on. -/
  suits : W → V → Operator → Bool
  /-- An operator as a capability of a value. -/
  operator : Operator → V → C
  /-- The method of a value with a name. -/
  method? : W → V → String → Option C
  /-- Checks the number of arguments and does what is asked. -/
  perform : C → Activation → String → List V → Ask W V

namespace Reflection

variable {V W C : Type}

/-- The routine of the environment with a name; one that was registered hides a marked one. -/
def routine? (r : Reflection V W C) (w : W) (name : String) : Option C :=
  (r.registered? w name).or (r.marked? w name)

/-- **The capability of a value with a name**: an operator if the value is of a type that has it; a
method, unless the name is private; an operator that every value has. -/
def valueCapability? (r : Reflection V W C) (w : W) (v : V) (name : String) : Option C :=
  let operator? := Operator.ofName? name
  match operator?.filter (r.suits w v) with
  | some op => some (r.operator op v)
  | none =>
    if name.startsWith "_" then none
    else
      match r.method? w v name with
      | some c => some c
      | none => (operator?.filter Operator.isUniversal).map (r.operator · v)

/-- The capability of a target with a name: a routine if the target is the environment. -/
def capability? (r : Reflection V W C) (w : W) (target : V) (name : String) : Option C :=
  if r.isEnvironment target then r.routine? w name else r.valueCapability? w target name

/-- The bridge that answers by looking at the host. -/
def bridge (r : Reflection V W C) : Bridge V W :=
  { r.toSurroundings with
    environment := r.environment
    has := fun target name => do return (r.capability? (← get) target name).isSome
    invoke := fun activation target name args => do
      let w ← get
      match r.capability? w target name with
      | some c => r.perform c activation name args
      | none => throw (.host (.noCapability (r.typeName w target) name)) }

end Reflection

end Treewalk
