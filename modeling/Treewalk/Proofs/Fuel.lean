import Treewalk.Proofs.Step

/-!
# More steps change nothing

The evaluator is given a number of steps, and it gives up when they are used up. That number decides
nothing else: an evaluation that ends with some steps, in a value or in a fault, ends in the same
way with any larger number, and leaves the same core behind. So it can be said of a node what it is
evaluated to, or what it fails with, and no number of steps has to be named (`Treewalk.Evaluates`,
`Treewalk.Fails`).

One result *stands* against another (`Treewalk.Stands`) if the two are the same unless the first one
gave up. Every construct of the evaluator keeps this, and **`Treewalk.eval_stands`** says that the
evaluator does.
-/

namespace Treewalk

open Treewalk.Core

variable {V W α β : Type}

/-! ### Results that stand -/

/-- **A result stands against another**: unless the steps were used up, the other is the same. -/
def Stands (r r' : EStateM.Result Halt (Core V W) α) : Prop :=
  haltOf r ≠ some .outOfFuel → r' = r

namespace Stands

variable {c c' : Core V W}

theorem refl (r : EStateM.Result Halt (Core V W) α) : Stands r r := fun _ => rfl

/-- What has given up stands against everything. -/
theorem of_outOfFuel (c : Core V W) (r : EStateM.Result Halt (Core V W) α) :
    Stands (.error .outOfFuel c) r := fun h => absurd rfl h

theorem of_ok {r r' : EStateM.Result Halt (Core V W) α} {a : α} (h : Stands r r')
    (hr : r = .ok a c) : r' = .ok a c := by
  subst hr
  exact h (by simp)

theorem of_fault {r r' : EStateM.Result Halt (Core V W) α} {f : Fault} (h : Stands r r')
    (hr : r = .error (.fault f) c) : r' = .error (.fault f) c := by
  subst hr
  exact h (by simp)

/-- **One computation after another stands** if both do. -/
theorem bind {x x' : Eval V W α} {f f' : α → Eval V W β} (hx : Stands (x c) (x' c))
    (hf : ∀ a c', x c = .ok a c' → Stands (f a c') (f' a c')) :
    Stands ((x >>= f) c) ((x' >>= f') c) := by
  cases h : x c with
  | ok a c' =>
    rw [bind_of_ok h, bind_of_ok (hx.of_ok h)]
    exact hf a c' h
  | error e c' =>
    intro hend
    rw [bind_of_error h] at hend ⊢
    have hx' : x' c = .error e c' := by
      rw [h] at hx
      exact hx hend
    exact bind_of_error hx'

/-- What takes no steps can be put in front. -/
theorem bindSame {x : Eval V W α} {f f' : α → Eval V W β}
    (hf : ∀ a c', x c = .ok a c' → Stands (f a c') (f' a c')) :
    Stands ((x >>= f) c) ((x >>= f') c) :=
  (refl _).bind hf

/-- Moving a fault to a place takes no steps. -/
theorem located {x x' : Eval V W V} (place : Place) (hx : Stands (x c) (x' c)) :
    Stands (Core.located place x c) (Core.located place x' c) := by
  intro hend
  have hx' : x' c = x c := by
    apply hx
    intro h
    refine hend ?_
    cases hr : x c with
    | ok v c' => simp [hr] at h
    | error e c' =>
      obtain rfl : e = .outOfFuel := by simpa [hr] using h
      simp [Core.located, hr]
  simp only [Core.located, hx']

end Stands

/-! ### The evaluator -/

section Calls

variable {b : Bridge V W} {eval eval' : Node → Eval V W V}
  (heval : ∀ n c, Stands (eval n c) (eval' n c))
include heval

theorem exec_stands : ∀ (nodes : List Node) (last : V) (c : Core V W),
    Stands (exec eval last nodes c) (exec eval' last nodes c)
  | [], _, _ => .refl _
  | n :: rest, _, c => (heval n c).bind fun v c' _ => exec_stands rest v c'

theorem evalAll_stands : ∀ (nodes : List Node) (c : Core V W),
    Stands (evalAll eval nodes c) (evalAll eval' nodes c)
  | [], _ => .refl _
  | n :: rest, c =>
    (heval n c).bind fun _ c' _ => (evalAll_stands rest c').bind fun _ _ _ => .refl _

theorem runBody_stands (f : Function) (args : List V) (c : Core V W) :
    Stands (runBody b eval f args c) (runBody b eval' f args c) := by
  by_cases hargs : args.length = f.params.length
  · rw [runBody_of_eq hargs, runBody_of_eq hargs]
    exact exec_stands heval f.body b.nil _
  · rw [runBody_of_ne hargs, runBody_of_ne hargs]
    exact .refl _

/-- The first tier. The other two take no steps. -/
theorem callFunction_stands (name : String) (args : List V) (site : Option Place) (c : Core V W) :
    Stands (callFunction b eval name args site c) (callFunction b eval' name args site c) := by
  cases hf : c.functions.lookup name with
  | none =>
    rw [callFunction_of_none hf, callFunction_of_none hf]
    exact .refl _
  | some f =>
    rw [callFunction_of_some hf, callFunction_of_some hf]
    refine .bindSame fun _ c₁ _ => ?_
    exact (runBody_stands heval f args c₁).bind fun _ _ _ => .refl _

theorem resolve_stands (name : String) (args : List V) (site : Option Place) (c : Core V W) :
    Stands (resolve b eval name args site c) (resolve b eval' name args site c) :=
  (callFunction_stands heval name args site c).bind fun _ _ _ => .refl _

theorem call_stands (name : String) (args : List V) (site : Option Place) (c : Core V W) :
    Stands (call b eval name args site c) (call b eval' name args site c) :=
  (resolve_stands heval name args site c).bind fun _ _ _ => .refl _

theorem callBare_stands (name : String) (place : Place) (c : Core V W) :
    Stands (callBare b eval name place c) (callBare b eval' name place c) :=
  (resolve_stands heval name [] (some place) c).bind fun _ _ _ => .refl _

end Calls

/-- **More steps change nothing**: the evaluation of a node that ends with some number of steps ends
in the same way with every larger one. -/
theorem eval_stands (b : Bridge V W) {fuel fuel' : Nat} (hle : fuel ≤ fuel') (n : Node)
    (c : Core V W) : Stands (eval b fuel n c) (eval b fuel' n c) := by
  induction fuel generalizing fuel' n c with
  | zero => exact .of_outOfFuel c _
  | succ fuel ih =>
    obtain ⟨fuel', rfl⟩ : ∃ m, fuel' = m + 1 := ⟨fuel' - 1, by omega⟩
    have hinner (n : Node) (c : Core V W) : Stands (eval b fuel n c) (eval b fuel' n c) :=
      ih (by omega) n c
    cases n with
    | literal | string | define => exact .refl _
    | var place name =>
      simp only [eval]
      refine .bindSame fun _ c₁ _ => .bindSame fun c₂ c₃ _ => ?_
      cases c₂.frame.get? name with
      | some v => exact .refl _
      | none => exact (callBare_stands hinner name place c₃).located place
    | assign place name value =>
      simp only [eval]
      exact .bindSame fun _ c₁ _ => (hinner value c₁).bind fun _ _ _ => .refl _
    | cond place test thenBody elseBody =>
      simp only [eval]
      refine (hinner test c).bind fun v c₁ _ => .bindSame fun _ c₂ _ => ?_
      refine .bindSame fun truth c₃ _ => ?_
      cases truth with
      | true => exact exec_stands hinner thenBody b.nil c₃
      | false =>
        cases elseBody with
        | some body => exact exec_stands hinner body b.nil c₃
        | none => exact .refl _
    | loop place test body =>
      simp only [eval]
      refine (hinner test c).bind fun v c₁ _ => .bindSame fun _ c₂ _ => ?_
      refine .bindSame fun truth c₃ _ => ?_
      cases truth with
      | true => exact (exec_stands hinner body b.nil c₃).bind fun _ c₄ _ => hinner _ c₄
      | false => exact .refl _
    | call place name args =>
      simp only [eval]
      refine (evalAll_stands hinner args c).bind fun vs c₁ _ => .bindSame fun _ c₂ _ => ?_
      exact (call_stands hinner name vs (some place) c₂).located place

/-! ### What nodes are evaluated to -/

section Outcomes

variable (b : Bridge V W)

/-- **A node is evaluated** to a value, with enough steps, and leaves a core behind. -/
def Evaluates (n : Node) (c : Core V W) (v : V) (c' : Core V W) : Prop :=
  ∃ fuel, eval b fuel n c = .ok v c'

/-- **A node fails** with a fault, with enough steps. -/
def Fails (n : Node) (c : Core V W) (f : Fault) (c' : Core V W) : Prop :=
  ∃ fuel, eval b fuel n c = .error (.fault f) c'

/-- **Statements are executed** in order, with enough steps, to the value of the last one. -/
def Executes (nodes : List Node) (c : Core V W) (v : V) (c' : Core V W) : Prop :=
  ∃ fuel, exec (eval b fuel) b.nil nodes c = .ok v c'

/-- **Statements break off** with a fault, with enough steps. -/
def BreaksOff (nodes : List Node) (c : Core V W) (f : Fault) (c' : Core V W) : Prop :=
  ∃ fuel, exec (eval b fuel) b.nil nodes c = .error (.fault f) c'

end Outcomes

end Treewalk
