import Treewalk.Core.Call

/-!
# Evaluation

`Treewalk.eval` evaluates a node against a core. It takes a bound on the number of steps that lie
inside one another or follow one another in a loop; a larger bound never changes an evaluation that
has ended, and one that does not end needs none.
-/

namespace Treewalk

open Treewalk.Core

variable {V W : Type}

/-- Evaluates a node. -/
def eval (b : Bridge V W) : (fuel : Nat) → Node → Eval V W V
  | 0, _ => throw .outOfFuel
  | fuel + 1, node =>
    match node with
    | .literal _ v => do
      visit node
      return b.literal v
    | .string _ s => do
      visit node
      make (b.text s)
    | .var place name => do
      visit node
      match (← get).frame.get? name with
      | some v => return v
      | none => located place (callBare b (eval b fuel) name place)
    | .assign _ name value => do
      visit node
      let v ← eval b fuel value
      assign name v
      return v
    | .cond _ test thenBody elseBody => do
      let v ← eval b fuel test
      visit node
      if ← ask (b.truthy v) then exec (eval b fuel) b.nil thenBody
      else
        match elseBody with
        | some body => exec (eval b fuel) b.nil body
        | none => return b.nil
    | .loop _ test body => do
      let v ← eval b fuel test
      visit node
      if ← ask (b.truthy v) then
        let _ ← exec (eval b fuel) b.nil body
        eval b fuel node
      else return b.nil
    | .define place name params body => do
      visit node
      define name ⟨name, params, body, place⟩ place
      return b.nil
    | .call place name args => do
      let vs ← evalAll (eval b fuel) args
      visit node
      located place (call b (eval b fuel) name vs (some place))

/-- Evaluates a program. -/
def Program.eval (b : Bridge V W) (fuel : Nat) (p : Program) : Eval V W V :=
  exec (Treewalk.eval b fuel) b.nil p.body

end Treewalk
