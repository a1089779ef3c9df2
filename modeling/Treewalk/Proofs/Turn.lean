import Treewalk.Proofs.Step

/-!
# The turns of an evaluation

What an evaluation does can be watched from outside: it asks the surroundings, invokes capabilities,
binds variables, defines functions, pushes and pops frames. A `Treewalk.Turn` is one such
`Treewalk.Move` together with the core at the moment it is made, and `Treewalk.turns` lists the
turns of the evaluation of a node, in order. Where the evaluation halts the list ends: what a failed
computation would have been followed by is not there (`Treewalk.after`).

The list is computed beside the evaluator and from its own results, case by case. That the two
belong together is proved in `Treewalk.Proofs.Course`, where every turn is a step of the evaluation,
and in `Treewalk.Proofs.Record`, where the invocations among the turns are those that a recording
bridge writes down.
-/

namespace Treewalk

open Treewalk.Core

/-- A call by name, with its arguments. -/
structure Request (V : Type) where
  name : String
  args : List V

/-- What an evaluation does at some moment. -/
inductive Move (V : Type) where
  /-- Asks whether a target has the capability that a call is for. -/
  | has (call : Request V) (target : V)
  /-- Invokes a capability of a target on behalf of a call. -/
  | invoke (call : Request V) (target : V) (args : List V)
  /-- Asks whether a value counts as true. -/
  | truthy (value : V)
  /-- Binds a variable in the active frame. -/
  | assign (name : String) (value : V)
  /-- Defines a function, unless the name is taken. -/
  | define (name : String)
  /-- Pushes a frame, if there is room. -/
  | enter (name : String)
  /-- Pops the active frame. -/
  | leave

/-- A move, with the core at the moment it is made. -/
structure Turn (V W : Type) where
  core : Core V W
  move : Move V

variable {V W α β : Type}

/-- What follows a computation: nothing if it halted. -/
def after (r : EStateM.Result Halt (Core V W) α) (next : α → Core V W → List β) : List β :=
  match r with
  | .ok a c => next a c
  | .error _ _ => []

@[simp] theorem after_ok (a : α) (c : Core V W) (next : α → Core V W → List β) :
    after (.ok a c) next = next a c := rfl

@[simp] theorem after_error (h : Halt) (c : Core V W) (next : α → Core V W → List β) :
    after (.error h c) next = [] := rfl

/-! ### Calls

The evaluator is a parameter here, as it is for the calls themselves, and so are the turns of the
nodes that it evaluates. -/

section Calls

variable (b : Bridge V W) (eval : Node → Eval V W V) (seen : Node → Core V W → List (Turn V W))

/-- The turns of nodes that are evaluated in order. -/
def execTurns : List Node → Core V W → List (Turn V W)
  | [], _ => []
  | n :: rest, c => seen n c ++ after (eval n c) fun _ c => execTurns rest c

/-- The turns of the body of a function, when its frame is active. -/
def bodyTurns (f : Function) (args : List V) (c : Core V W) : List (Turn V W) :=
  if args.length = f.params.length then execTurns eval seen f.body (c.bound f.params args) else []

/-- The turns of the first tier. -/
def functionTurns (call : Request V) (site : Option Place) (c : Core V W) : List (Turn V W) :=
  match c.functions.lookup call.name with
  | none => []
  | some f =>
    let c := c.noted (.user call.name call.args.length)
    ⟨c, .enter call.name⟩ :: after (enter call.name site c) fun _ c =>
      bodyTurns eval seen f call.args c ++
        after (runBody b eval f call.args c) fun _ c => [⟨c, .leave⟩]

/-- The turns of asking a target for a capability, and of invoking it if it is there. -/
def offerTurns (line : W → TraceLine) (call : Request V) (target : V) (args : List V)
    (c : Core V W) : List (Turn V W) :=
  ⟨c, .has call target⟩ :: after (ask (b.has target call.name) c) fun known c =>
    if known then [⟨c.noted (line c.world), .invoke call target args⟩] else []

/-- The turns of the second tier. -/
def environmentTurns (call : Request V) (c : Core V W) : List (Turn V W) :=
  offerTurns b (fun _ => .environment call.name call.args.length) call b.environment call.args c

/-- The turns of the third tier. -/
def receiverTurns (call : Request V) (c : Core V W) : List (Turn V W) :=
  match call.args with
  | [] => []
  | receiver :: rest =>
    offerTurns b (fun w => .receiver call.name (b.typeName w receiver) rest.length) call receiver
      rest c

/-- The turns of all tiers. -/
def resolveTurns (call : Request V) (site : Option Place) (c : Core V W) : List (Turn V W) :=
  functionTurns b eval seen call site c ++
    after (callFunction b eval call.name call.args site c) fun
      | some _, _ => []
      | none, c => environmentTurns b call c ++
        after (callEnvironment b call.name call.args c) fun
          | some _, _ => []
          | none, c => receiverTurns b call c

end Calls

/-! ### Nodes -/

/-- **The turns of the evaluation of a node**, in order. -/
def turns (b : Bridge V W) : (fuel : Nat) → Node → Core V W → List (Turn V W)
  | 0, _, _ => []
  | fuel + 1, node, c =>
    match node with
    | .literal _ _ | .string _ _ => []
    | .var place name =>
      match c.frame.get? name with
      | some _ => []
      | none =>
        resolveTurns b (eval b fuel) (turns b fuel) ⟨name, []⟩ (some place) (c.visited node)
    | .assign _ name value =>
      turns b fuel value (c.visited node) ++ after (eval b fuel value (c.visited node)) fun v c =>
        [⟨c, .assign name v⟩]
    | .cond _ test thenBody elseBody =>
      turns b fuel test c ++ after (eval b fuel test c) fun v c =>
        ⟨c.visited node, .truthy v⟩ :: after (ask (b.truthy v) (c.visited node)) fun truth c =>
          execTurns (eval b fuel) (turns b fuel)
            (if truth then thenBody else elseBody.getD []) c
    | .loop _ test body =>
      turns b fuel test c ++ after (eval b fuel test c) fun v c =>
        ⟨c.visited node, .truthy v⟩ :: after (ask (b.truthy v) (c.visited node)) fun truth c =>
          if truth then
            execTurns (eval b fuel) (turns b fuel) body c ++
              after (exec (eval b fuel) b.nil body c) fun _ c => turns b fuel node c
          else []
    | .define _ name _ _ => [⟨c.visited node, .define name⟩]
    | .call place name args =>
      execTurns (eval b fuel) (turns b fuel) args c ++
        after (evalAll (eval b fuel) args c) fun vs c =>
          resolveTurns b (eval b fuel) (turns b fuel) ⟨name, vs⟩ (some place) (c.visited node)

/-- The turns of the evaluation of a program. -/
def Program.turns (b : Bridge V W) (fuel : Nat) (p : Program) (c : Core V W) : List (Turn V W) :=
  execTurns (Treewalk.eval b fuel) (Treewalk.turns b fuel) p.body c

end Treewalk
