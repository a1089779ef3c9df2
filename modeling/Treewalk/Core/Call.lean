import Treewalk.Core.Basic

/-!
# Calls

A call is resolved through three tiers: functions of the program, then routines of the environment,
then capabilities of the first argument, which becomes the receiver. The first tier that knows the
name takes the call; a tier that does not gives `none`.

Running the body of a function needs the evaluator, which is a parameter here.
-/

namespace Treewalk.Core

variable {V W : Type}

/-- Evaluates nodes in order; the value is that of the last one, or nil. -/
def exec (eval : Node → Eval V W V) (last : V) : List Node → Eval V W V
  | [] => return last
  | n :: rest => do
    let v ← eval n
    exec eval v rest

/-- Evaluates nodes in order, to the list of their values. -/
def evalAll (eval : Node → Eval V W V) : List Node → Eval V W (List V)
  | [] => return []
  | n :: rest => do
    let v ← eval n
    return v :: (← evalAll eval rest)

/-- Binds arguments in the active frame and runs the body of a function. -/
def runBody (b : Bridge V W) (eval : Node → Eval V W V) (f : Function) (args : List V) :
    Eval V W V := do
  if args.length ≠ f.params.length then
    raise (.arity (← get).frame.name args.length (.exactly f.params.length)) .nowhere
  modify fun c => { c with frame := c.frame.setAll f.params args }
  exec eval b.nil f.body

/-- The first tier: a function of the program. Its frame stays on the stack if it fails. -/
def callFunction (b : Bridge V W) (eval : Node → Eval V W V) (name : String) (args : List V)
    (site : Option Place) : Eval V W (Option V) := do
  match (← get).functions.lookup name with
  | none => return none
  | some f =>
    note (.user name args.length)
    enter name site
    let v ← runBody b eval f args
    leave
    return some v

/-- The second tier: a routine of the environment. -/
def callEnvironment (b : Bridge V W) (name : String) (args : List V) : Eval V W (Option V) := do
  if ← ask (b.has b.environment name) then
    note (.environment name args.length)
    return some (← ask (b.invoke (← get).activation b.environment name args))
  else return none

/-- The third tier: a capability of the first argument. -/
def callReceiver (b : Bridge V W) (name : String) (args : List V) : Eval V W (Option V) := do
  match args with
  | [] => return none
  | receiver :: rest =>
    if ← ask (b.has receiver name) then
      note (.receiver name (b.typeName (← get).world receiver) rest.length)
      return some (← ask (b.invoke (← get).activation receiver name rest))
    else return none

/-- Resolves a call through all tiers. -/
def resolve (b : Bridge V W) (eval : Node → Eval V W V) (name : String) (args : List V)
    (site : Option Place) : Eval V W (Option V) := do
  match ← callFunction b eval name args site with
  | some v => return some v
  | none =>
    match ← callEnvironment b name args with
    | some v => return some v
    | none => callReceiver b name args

/-- Calls a function by name. A name that no tier knows is a fault at the call. -/
def call (b : Bridge V W) (eval : Node → Eval V W V) (name : String) (args : List V)
    (site : Option Place) : Eval V W V := do
  match ← resolve b eval name args site with
  | some v => return v
  | none => raise (.unresolved name .call) (site.getD .nowhere)

/-- The value of a bare name that is no variable: a call without arguments. -/
def callBare (b : Bridge V W) (eval : Node → Eval V W V) (name : String) (site : Place) :
    Eval V W V := do
  match ← resolve b eval name [] (some site) with
  | some v => return v
  | none => raise (.unresolved name .bare) site

/-- Moves a wrong number of arguments that has no line yet to a place. -/
def located (place : Place) (x : Eval V W V) : Eval V W V := fun c =>
  match x c with
  | .error (.fault f) c => .error (.fault (f.movedTo place)) c
  | r => r

end Treewalk.Core
