import Treewalk.Core.Eval
import Mathlib.Data.List.Basic
import Mathlib.Tactic.Common

/-!
# The elementary steps of a core

An evaluation is put together from few things that can be done to a core: a node is noted, a
variable is bound, a function is defined, a frame is pushed or popped, the surroundings are asked, a
line is traced. This file gives the core after each of these as a function of the core before
(`Treewalk.Core.visited`, `Treewalk.Core.entered`, `Treewalk.Core.left` and so on), with one
equation for each operation of the evaluator, so that no later proof opens the operation itself.

A computation ends in a result, which is read by two functions: `Treewalk.Core.haltOf` says how it
halted, if it did, and `Treewalk.Core.coreOf` is the core that it left behind in either case.
-/

namespace Treewalk

/-- The surroundings after a question, whether it was answered or not. -/
def Ask.worldAfter {W α : Type} (x : Ask W α) (w : W) : W :=
  match x w with
  | .ok _ w' => w'
  | .error _ w' => w'

/-- How a question halts the evaluation: not at all if it is answered. -/
def Ask.haltAfter {W α : Type} (x : Ask W α) (w : W) : Option Halt :=
  match x w with
  | .ok _ _ => none
  | .error f _ => some (.fault f)

namespace Core

variable {V W α β : Type}

/-! ### Results -/

/-- How a result came to a halt: not at all if there is a value. -/
def haltOf : EStateM.Result Halt (Core V W) α → Option Halt
  | .ok _ _ => none
  | .error h _ => some h

/-- The core that a result leaves behind. -/
def coreOf : EStateM.Result Halt (Core V W) α → Core V W
  | .ok _ c => c
  | .error _ c => c

@[simp] theorem haltOf_ok (a : α) (c : Core V W) :
    haltOf (.ok a c : EStateM.Result Halt (Core V W) α) = none := rfl

@[simp] theorem haltOf_error (h : Halt) (c : Core V W) :
    haltOf (.error h c : EStateM.Result Halt (Core V W) α) = some h := rfl

@[simp] theorem coreOf_ok (a : α) (c : Core V W) :
    coreOf (.ok a c : EStateM.Result Halt (Core V W) α) = c := rfl

@[simp] theorem coreOf_error (h : Halt) (c : Core V W) :
    coreOf (.error h c : EStateM.Result Halt (Core V W) α) = c := rfl

/-! ### One computation after another -/

/-- A computation that has a value goes on with it. -/
theorem bind_of_ok {x : Eval V W α} {f : α → Eval V W β} {c c' : Core V W} {a : α}
    (h : x c = .ok a c') : (x >>= f) c = f a c' := by
  change EStateM.bind x f c = f a c'
  simp only [EStateM.bind, h]

/-- A computation that halts is all that is done. -/
theorem bind_of_error {x : Eval V W α} {f : α → Eval V W β} {c c' : Core V W} {e : Halt}
    (h : x c = .error e c') : (x >>= f) c = .error e c' := by
  change EStateM.bind x f c = .error e c'
  simp only [EStateM.bind, h]

/-- Where two computations end in a value, the first one does. -/
theorem bind_eq_ok {x : Eval V W α} {f : α → Eval V W β} {c c' : Core V W} {b : β}
    (h : (x >>= f) c = .ok b c') : ∃ a c₁, x c = .ok a c₁ ∧ f a c₁ = .ok b c' := by
  cases hx : x c with
  | ok a c₁ => exact ⟨a, c₁, rfl, (bind_of_ok hx).symm.trans h⟩
  | error e c₁ => exact nomatch (bind_of_error hx).symm.trans h

/-! ### The core after a step -/

/-- The core after a line was traced. -/
def noted (line : TraceLine) (c : Core V W) : Core V W :=
  if c.tracing = .on then { c with trace := line :: c.trace } else c

/-- The core when a node is being evaluated. -/
@[simps]
def visited (n : Node) (c : Core V W) : Core V W := { c with current := some n }

/-- The core in other surroundings. -/
@[simps]
def inWorld (w : W) (c : Core V W) : Core V W := { c with world := w }

/-- The core after a variable was bound in the active frame. -/
@[simps]
def assigned (name : String) (value : V) (c : Core V W) : Core V W :=
  { c with frame := c.frame.set name value }

/-- The core after parameters were bound to arguments in the active frame. -/
@[simps]
def bound (params : List String) (args : List V) (c : Core V W) : Core V W :=
  { c with frame := c.frame.setAll params args }

/-- The core after a function was registered under a new name. -/
def defined (name : String) (f : Function) (c : Core V W) : Core V W :=
  let c := c.noted (.define name f.params)
  { c with functions := c.functions ++ [(name, f)] }

/-- The core with an empty frame on top of the others, and the call that it stands for. -/
@[simps]
def pushed (name : String) (site : Option Place) (c : Core V W) : Core V W :=
  { c with
    frame := ⟨name, []⟩
    below := c.frame :: c.below
    calls := ⟨name, site.getD .nowhere⟩ :: c.calls }

/-- The core after a frame was pushed. -/
def entered (name : String) (site : Option Place) (c : Core V W) : Core V W :=
  (c.pushed name site).noted (.enter name (c.depth + 1))

/-- The core after the active frame was popped. The frame at the bottom stays. -/
def left (c : Core V W) : Core V W :=
  match c.below with
  | [] => c
  | f :: rest =>
    { c with frame := f, below := rest, calls := c.calls.tail }.noted
      (.leave c.frame.name rest.length.succ)

section Fields

variable (line : TraceLine) (c : Core V W)

/-! A line of the trace changes nothing but the trace. -/

@[simp] theorem noted_maxDepth : (c.noted line).maxDepth = c.maxDepth := by
  unfold noted; split <;> rfl

@[simp] theorem noted_functions : (c.noted line).functions = c.functions := by
  unfold noted; split <;> rfl

@[simp] theorem noted_frame : (c.noted line).frame = c.frame := by
  unfold noted; split <;> rfl

@[simp] theorem noted_below : (c.noted line).below = c.below := by
  unfold noted; split <;> rfl

@[simp] theorem noted_calls : (c.noted line).calls = c.calls := by
  unfold noted; split <;> rfl

@[simp] theorem noted_current : (c.noted line).current = c.current := by
  unfold noted; split <;> rfl

@[simp] theorem noted_world : (c.noted line).world = c.world := by
  unfold noted; split <;> rfl

/-- The depth is no field of its own, so it needs the two lemmas on frames. -/
@[simp] theorem noted_depth : (c.noted line).depth = c.depth := by
  simp [depth]

variable (name : String) (f : Function) (site : Option Place)

/-- A new function comes behind those that were there, which it cannot hide. -/
@[simp] theorem defined_functions :
    (c.defined name f).functions = c.functions ++ [(name, f)] := by simp [defined]

@[simp] theorem defined_maxDepth : (c.defined name f).maxDepth = c.maxDepth := by simp [defined]

@[simp] theorem defined_frame : (c.defined name f).frame = c.frame := by simp [defined]

@[simp] theorem defined_below : (c.defined name f).below = c.below := by simp [defined]

@[simp] theorem defined_calls : (c.defined name f).calls = c.calls := by simp [defined]

@[simp] theorem defined_current : (c.defined name f).current = c.current := by simp [defined]

@[simp] theorem defined_world : (c.defined name f).world = c.world := by simp [defined]

@[simp] theorem entered_maxDepth : (c.entered name site).maxDepth = c.maxDepth := by simp [entered]

@[simp] theorem entered_functions : (c.entered name site).functions = c.functions := by
  simp [entered]

/-- The frame that is pushed is empty, whatever the active one held. -/
@[simp] theorem entered_frame : (c.entered name site).frame = ⟨name, []⟩ := by
  simp [entered, pushed]

/-- The frame that was active is kept right below. -/
@[simp] theorem entered_below : (c.entered name site).below = c.frame :: c.below := by
  simp [entered]

/-- The call of a frame is noted with the place where it was made, if there is one. -/
@[simp] theorem entered_calls :
    (c.entered name site).calls = ⟨name, site.getD .nowhere⟩ :: c.calls := by
  simp [entered]

@[simp] theorem entered_current : (c.entered name site).current = c.current := by simp [entered]

@[simp] theorem entered_world : (c.entered name site).world = c.world := by simp [entered]

/-! A frame that is popped takes its call along. The limit and the functions are those of the core,
and so are its surroundings. -/

@[simp] theorem left_maxDepth : c.left.maxDepth = c.maxDepth := by
  unfold left; split <;> simp

@[simp] theorem left_functions : c.left.functions = c.functions := by
  unfold left; split <;> simp

@[simp] theorem left_current : c.left.current = c.current := by
  unfold left; split <;> simp

@[simp] theorem left_world : c.left.world = c.world := by
  unfold left; split <;> simp

end Fields

/-- What is under the active frame comes up when that one is popped. -/
theorem left_of_below {c : Core V W} {f : Frame V} {rest : List (Frame V)}
    (h : c.below = f :: rest) :
    c.left.frame = f ∧ c.left.below = rest ∧ c.left.calls = c.calls.tail := by
  simp [left, h]

/-! ### The operations of the evaluator -/

/-- A line of the trace is noted whether or not anything is written of it. -/
theorem note_apply (line : TraceLine) (c : Core V W) : note line c = .ok () (c.noted line) := rfl

theorem visit_apply (n : Node) (c : Core V W) : visit n c = .ok () (c.visited n) := rfl

/-- Making a value cannot fail. -/
theorem make_apply (x : W → V × W) (c : Core V W) :
    make x c = .ok (x c.world).1 (c.inWorld (x c.world).2) := rfl

/-- An answer comes with the surroundings after it. -/
theorem ask_of_ok {x : Ask W α} {c : Core V W} {a : α} {w : W} (h : x c.world = .ok a w) :
    ask x c = .ok a (c.inWorld w) := by
  simp only [ask, h, inWorld]

/-- A fault of the surroundings halts the evaluation, which keeps what they have done until then. -/
theorem ask_of_error {x : Ask W α} {c : Core V W} {f : Fault} {w : W}
    (h : x c.world = .error f w) : ask x c = .error (.fault f) (c.inWorld w) := by
  simp only [ask, h, inWorld]

/-- **A question changes nothing but the surroundings**, whether it is answered or not. -/
theorem coreOf_ask (x : Ask W α) (c : Core V W) :
    coreOf (ask x c) = c.inWorld (x.worldAfter c.world) := by
  unfold Ask.worldAfter
  cases h : x c.world with
  | ok a w => rw [ask_of_ok h, coreOf_ok]
  | error f w => rw [ask_of_error h, coreOf_error]

/-- What halts a question is a fault of the surroundings. -/
theorem haltOf_ask (x : Ask W α) (c : Core V W) : haltOf (ask x c) = x.haltAfter c.world := by
  unfold Ask.haltAfter
  cases h : x c.world with
  | ok a w => rw [ask_of_ok h, haltOf_ok]
  | error f w => rw [ask_of_error h, haltOf_error]

theorem error_of_haltOf_ask {x : Ask W α} {c : Core V W} {f : Fault}
    (h : haltOf (ask x c) = some (.fault f)) :
    x c.world = .error f (x.worldAfter c.world) := by
  rw [haltOf_ask] at h
  unfold Ask.haltAfter at h
  unfold Ask.worldAfter
  split at h <;> cases h
  next hx => rw [hx]

theorem get_apply (c : Core V W) : (get : Eval V W (Core V W)) c = .ok c c := rfl

/-- A fault that the program itself is to blame for leaves the core as it is. -/
theorem raise_apply (cause : Cause) (place : Place) (c : Core V W) :
    (raise cause place : Eval V W α) c = .error (.fault (.raise cause place)) c := rfl

/-- A name that is not taken gets its function. -/
theorem define_of_new {name : String} {f : Function} {site : Place} {c : Core V W}
    (h : c.functions.lookup name = none) : define name f site c = .ok () (c.defined name f) := by
  unfold define
  rw [bind_of_ok (get_apply c), if_neg (by simp [h])]
  exact bind_of_ok (note_apply _ c)

/-- A name that is taken is refused at the place of the second definition. -/
theorem define_of_known {name : String} {f : Function} {site : Place} {c : Core V W}
    (h : (c.functions.lookup name).isSome) :
    define name f site c = .error (.fault (.raise (.conflict name) site)) c := by
  unfold define
  rw [bind_of_ok (get_apply c), if_pos h, bind_of_error (raise_apply _ _ c)]

/-- Below the limit a frame is pushed. -/
theorem enter_of_room {name : String} {site : Option Place} {c : Core V W}
    (h : ¬ c.maxDepth ≤ c.depth) : enter name site c = .ok () (c.entered name site) := by
  unfold enter
  rw [bind_of_ok (get_apply c), if_neg h]
  rfl

/-- At the limit nothing is pushed, and the fault has the place of the call. -/
theorem enter_of_full {name : String} {site : Option Place} {c : Core V W}
    (h : c.maxDepth ≤ c.depth) :
    enter name site c = .error (.fault (.raise .tooDeep (site.getD .nowhere))) c := by
  unfold enter
  rw [bind_of_ok (get_apply c), if_pos h, bind_of_error (raise_apply _ _ c)]

theorem leave_apply (c : Core V W) : leave c = .ok () c.left := by
  unfold leave left
  rw [bind_of_ok (get_apply c)]
  cases c.below <;> rfl

/-! ### Calls -/

section Calls

variable {b : Bridge V W} {eval : Node → Eval V W V} {f : Function} {name : String} {args : List V}
  {site : Option Place} {c : Core V W}

/-- With the right number of arguments the parameters are bound, and the body is carried out. -/
theorem runBody_of_eq (h : args.length = f.params.length) :
    runBody b eval f args c = exec eval b.nil f.body (c.bound f.params args) := by
  unfold runBody
  rw [if_neg (by simp [h])]
  rfl

/-- With a wrong number nothing is bound, and the fault has no place: a function does not know who
calls it. -/
theorem runBody_of_ne (h : args.length ≠ f.params.length) :
    runBody b eval f args c =
      .error (.fault (.raise (.arity c.frame.name args.length (.exactly f.params.length)) .nowhere))
        c := by
  unfold runBody
  rw [if_pos h]
  rfl

/-- The first tier does not answer for a name that the program has not defined. -/
theorem callFunction_of_none (h : c.functions.lookup name = none) :
    callFunction b eval name args site c = .ok none c := by
  unfold callFunction
  rw [bind_of_ok (get_apply c)]
  simp only [h]
  rfl

/-- It answers for every other one; the frame is only popped behind a body that has a value. -/
theorem callFunction_of_some (h : c.functions.lookup name = some f) :
    callFunction b eval name args site c =
      (do
        enter name site
        let v ← runBody b eval f args
        leave
        return some v) (c.noted (.user name args.length)) := by
  unfold callFunction
  rw [bind_of_ok (get_apply c)]
  simp only [h]
  exact bind_of_ok (note_apply _ c)

/-! The second and the third tier ask a target and invoke what it has; they differ in the line that
is traced. -/

/-- Asks a target for a capability and invokes it if it is there. -/
def offer (b : Bridge V W) (line : W → TraceLine) (target : V) (name : String) (args : List V) :
    Eval V W (Option V) := do
  if ← ask (b.has target name) then
    note (line (← get).world)
    return some (← ask (b.invoke (← get).activation target name args))
  else return none

/-- The second tier asks the environment, with all arguments. -/
theorem callEnvironment_eq_offer (name : String) (args : List V) :
    callEnvironment b name args =
      offer b (fun _ => .environment name args.length) b.environment name args := rfl

/-- The third tier asks the first argument, with the others. -/
theorem callReceiver_eq_offer (name : String) (receiver : V) (rest : List V) :
    callReceiver b name (receiver :: rest) =
      offer b (fun w => .receiver name (b.typeName w receiver) rest.length) receiver name rest :=
  rfl

variable {line : W → TraceLine} {target : V} {w : W}

/-- What a target has is invoked, after a line was traced. -/
theorem offer_of_has (h : b.has target name c.world = .ok true w) :
    offer b line target name args c =
      (do return some (← ask (b.invoke c.activation target name args)) : Eval V W (Option V))
        ((c.inWorld w).noted (line w)) := by
  unfold offer
  rw [bind_of_ok (ask_of_ok h)]
  simp only [if_true]
  rw [bind_of_ok (get_apply _), bind_of_ok (note_apply _ _), bind_of_ok (get_apply _)]
  simp [activation, depth]

/-- What it does not have is left to the next tier, with the surroundings after the question. -/
theorem offer_of_not (h : b.has target name c.world = .ok false w) :
    offer b line target name args c = .ok none (c.inWorld w) := by
  unfold offer
  rw [bind_of_ok (ask_of_ok h)]
  rfl

theorem offer_of_error {fault : Fault} (h : b.has target name c.world = .error fault w) :
    offer b line target name args c = .error (.fault fault) (c.inWorld w) :=
  bind_of_error (ask_of_error h)

end Calls

end Core

end Treewalk
