import Treewalk.Host.Reflection
import Treewalk.Host.Routine

/-!
# The bridges

Four ways to connect the evaluator with a world of values.

* **`Treewalk.Bridges.reflective`**: the environment has its routines, every value its operators and
  methods.
* **`Treewalk.Bridges.nilFalse`**: the same, but only nil and the false truth value are not true.
* **`Treewalk.Bridges.table`**: the environment has two routines, and values have no capabilities.
* **`Treewalk.Bridges.hollow`**: capabilities are claimed and never carried out.
-/

namespace Treewalk.Bridges

/-- What was put out since the last run began. -/
def effects (w : World) : List Effect := w.effects.toList.map fun text => ⟨["stdout"], text⟩

/-- What a world shows of itself: its routines, and the operators and methods of its values. -/
def reflection : Reflection Value World Capability where
  nil := .nil
  literal := Literal.toValue
  text s w := w.freshText s
  typeName w v := w.typeName v
  truthy v := Act.read (·.truthy v)
  effects := effects
  clear w := { w with effects := #[] }
  environment := .environment
  isEnvironment v := match v with
    | .environment => true
    | _ => false
  isEnvironment_environment := rfl
  registered? := World.registered?
  marked? := World.marked?
  suits w v op := op.suits w v
  operator := Operator.capability
  method? := World.method?
  perform := Capability.invoke

/-- Values, their operators and methods, and an environment of routines. -/
def reflective : Bridge Value World := reflection.bridge

/-- The same, but only nil and the false truth value are not true. -/
def nilFalse : Bridge Value World :=
  { reflective with
    truthy := fun v => return match v with
      | .nil | .bool false => false
      | _ => true }

/-! ### An environment of two routines -/

/-- The names of parameters that were not given. -/
def nameList : List String → String
  | [] => ""
  | [a] => "'" ++ a ++ "'"
  | names => ", ".intercalate (names.dropLast.map fun a => "'" ++ a ++ "'") ++ " and '" ++
    names.getLastD "" ++ "'"

/-- Refuses a number of arguments other than that of the parameters. -/
def bindAll (params : List String) (args : List Value) : Except Mishap Unit :=
  let plural (n : Nat) : String := if n = 1 then "" else "s"
  let missing := params.drop args.length
  if !missing.isEmpty then
    .error (.type ("TableBridge.<lambda>() missing " ++ toString missing.length ++
      " required positional argument" ++ plural missing.length ++ ": " ++ nameList missing))
  else if params.length < args.length then
    .error (.type ("TableBridge.<lambda>() takes " ++ toString params.length ++
      " positional argument" ++ plural params.length ++ " but " ++ toString args.length ++
      " were given"))
  else .ok ()

/-- What the two routines give. -/
def tableEntry (w : World) (name : String) (args : List Value) : Except Mishap Answer :=
  match name with
  | "double" => do
    bindAll ["x"] args
    Operator.arithmeticOn w .mul (args.headD .nil) (.int 2)
  | "join2" => do
    bindAll ["a", "b"] args
    return .text (String.join (← args.mapM w.display))
  | name => .error (.missingKey name)

/-- An environment of two routines; values have no capabilities. -/
def table : Bridge Value World :=
  { reflective with
    has := fun target name => return match target with
      | .environment => name == "double" || name == "join2"
      | _ => false
    invoke := fun _ _ name args => Act.respond fun w => tableEntry w name args }

/-! ### Claims without deeds -/

/-- Every target claims one capability; asking for another, or invoking any, fails. -/
def hollow : Bridge Value World :=
  { reflective with
    has := fun _ name =>
      if name = "has" then Act.fail .unimplemented else return name == "inv"
    invoke := fun _ _ _ _ => Act.fail .unimplemented }

end Treewalk.Bridges
