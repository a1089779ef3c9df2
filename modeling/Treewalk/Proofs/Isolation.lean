import Treewalk.Host.Bridges
import Treewalk.Proofs.Lockstep

/-!
# A function sees only its arguments

A function of the program runs in a frame of its own, so what its caller has bound, who called the
caller, and which node was being evaluated cannot show in what it does. This is a statement about
two cores that differ in all of that and agree in the rest: the function table, the surroundings,
and the room on the stack (`Treewalk.Core.Akin`). From the moment the frame of the function is
pushed they agree in the active frame as well (`Treewalk.Core.Twin`), and then they go in lockstep
until the function returns or fails.

* **`Treewalk.Core.call_isolated`**: a call of a function of the program gives the same in both.
-/

namespace Treewalk

open Treewalk.Core

variable {V W : Type}

namespace Core

/-- **Two cores that agree in all that a function can see before it is called**: they differ at most
in their frames, the chain of calls, the node being evaluated and the trace. -/
structure Akin (c d : Core V W) : Prop where
  maxDepth_eq : d.maxDepth = c.maxDepth
  functions_eq : d.functions = c.functions
  depth_eq : d.depth = c.depth
  world_eq : d.world = c.world

/-- **Two cores that agree in all that a function can see while it runs**: the active frame as
well. -/
structure Twin (c d : Core V W) : Prop extends Akin c d where
  frame_eq : d.frame = c.frame

variable {c d c' d' : Core V W}

theorem Akin.noted (h : Akin c d) (line line' : TraceLine) : Akin (c.noted line) (d.noted line') :=
  ⟨by simpa using h.maxDepth_eq, by simpa using h.functions_eq, by simpa using h.depth_eq,
    by simpa using h.world_eq⟩

/-- The frames of two calls are both empty. -/
theorem Akin.entered (h : Akin c d) (name : String) (site : Option Place) :
    Twin (c.entered name site) (d.entered name site) where
  maxDepth_eq := by simpa using h.maxDepth_eq
  functions_eq := by simpa using h.functions_eq
  depth_eq := by simpa [depth] using h.depth_eq
  world_eq := by simpa using h.world_eq
  frame_eq := by simp

/-- After the frames of two calls are popped, the depth is as before. -/
theorem Akin.left (h : Akin c d) (h' : Akin c' d') (hbelow : c'.below = c.frame :: c.below)
    (hbelow' : d'.below = d.frame :: d.below) : Akin c'.left d'.left where
  maxDepth_eq := by simpa using h'.maxDepth_eq
  functions_eq := by simpa using h'.functions_eq
  depth_eq := by
    rw [depth, depth, (left_of_below hbelow).2.1, (left_of_below hbelow').2.1]
    exact h.depth_eq
  world_eq := by simpa using h'.world_eq

theorem Twin.inWorld (h : Twin c d) (w : W) : Twin (c.inWorld w) (d.inWorld w) :=
  ⟨⟨h.maxDepth_eq, h.functions_eq, h.depth_eq, rfl⟩, h.frame_eq⟩

/-- Questions are answered alike in the same surroundings. -/
theorem Twin.ask {α : Type} (h : Twin c d) (x : Ask W α) : Alike Twin (ask x c) (ask x d) := by
  cases hx : x c.world with
  | ok a w =>
    rw [ask_of_ok hx, ask_of_ok (h.world_eq ▸ hx)]
    exact .ok (h.inWorld w)
  | error f w =>
    rw [ask_of_error hx, ask_of_error (h.world_eq ▸ hx)]
    exact .error (h.inWorld w)

theorem Twin.activation_eq (h : Twin c d) : d.activation = c.activation := by
  rw [activation, activation, h.frame_eq, h.depth_eq]

/-- A call needs cores that are akin, and its body runs in twins. -/
theorem Akin.callStep : CallStep (Twin (V := V) (W := W)) Akin where
  weaken h := h.toAkin
  functions_eq h := h.functions_eq
  full_iff h := by rw [h.maxDepth_eq, h.depth_eq]
  noted line line' h := h.noted line line'
  entered name site h := h.entered name site
  left h h' hbelow hbelow' := h.left h'.toAkin hbelow hbelow'

/-- **Twins go in lockstep.** -/
theorem Twin.lockstep (b : Bridge V W) : Lockstep b b Twin where
  nil_eq := rfl
  literal_eq := rfl
  environment_eq := rfl
  weaken h := h
  frame_eq h := h.frame_eq
  functions_eq h := h.functions_eq
  full_iff h := Akin.callStep.full_iff h.toAkin
  noted line line' h := ⟨h.toAkin.noted line line', by simpa using h.frame_eq⟩
  visited _ h := ⟨⟨h.maxDepth_eq, h.functions_eq, h.depth_eq, h.world_eq⟩, h.frame_eq⟩
  assigned name v h :=
    ⟨⟨h.maxDepth_eq, h.functions_eq, h.depth_eq, h.world_eq⟩, by simp [h.frame_eq]⟩
  bound params args h :=
    ⟨⟨h.maxDepth_eq, h.functions_eq, h.depth_eq, h.world_eq⟩, by simp [h.frame_eq]⟩
  defined name f h :=
    ⟨⟨by simpa using h.maxDepth_eq, by simp [h.functions_eq], by simpa [depth] using h.depth_eq,
      by simpa using h.world_eq⟩, by simpa using h.frame_eq⟩
  entered name site h := h.toAkin.entered name site
  left h h' hbelow hbelow' :=
    ⟨h.toAkin.left h'.toAkin hbelow hbelow',
      by rw [(left_of_below hbelow).1, (left_of_below hbelow').1, h.frame_eq]⟩
  text s h := by
    rw [make_apply, make_apply, h.world_eq]
    exact .ok (h.inWorld _)
  has target name h := h.ask _
  invoke target name args h := by
    rw [h.activation_eq]
    exact h.ask _
  truthy v h := h.ask _

/-! ### Calls -/

/-- What can be seen from outside at a turn: the move, and the surroundings it is made in. -/
def sight (t : Turn V W) : Move V × W := (t.move, t.core.world)

/-- The same moves from cores that are akin look the same. -/
theorem sight_eq {ts ts' : List (Turn V W)}
    (h : List.Forall₂ (fun t t' => t.move = t'.move ∧ Akin t.core t'.core) ts ts') :
    ts.map sight = ts'.map sight := by
  induction h with
  | nil => rfl
  | cons hhead _ ih => simp only [List.map_cons, ih, sight, hhead.1, hhead.2.world_eq]

/-- **A function sees only its arguments.** In two cores that agree in the function table, the
surroundings, and the depth and the limit of the stack, a call of a function of the program ends in
the same way with any number of steps: with the same value, with the same fault, or not at all. The
cores agree in all that afterwards, and the same moves are made on the way, in the same
surroundings. -/
theorem call_isolated (b : Bridge V W) (h : Akin c d) {name : String}
    (hname : (c.functions.lookup name).isSome) (args : List V) (site : Option Place) (fuel : Nat) :
    Alike Akin (call b (eval b fuel) name args site c) (call b (eval b fuel) name args site d) ∧
      (resolveTurns b (eval b fuel) (turns b fuel) ⟨name, args⟩ site c).map sight =
        (resolveTurns b (eval b fuel) (turns b fuel) ⟨name, args⟩ site d).map sight := by
  have hl := Twin.lockstep b
  have hfirst := Lockstep.callFunction hl (hl.eval fuel) Akin.callStep ⟨name, args⟩ site h
  have hresolve : Abreast Akin
      (resolveTurns b (eval b fuel) (turns b fuel) ⟨name, args⟩ site c)
      (resolve b (eval b fuel) name args site c)
      (resolveTurns b (eval b fuel) (turns b fuel) ⟨name, args⟩ site d)
      (resolve b (eval b fuel) name args site d) := by
    refine hfirst.bind fun r c₁ d₁ hr _ hR => ?_
    cases r with
    | some v => exact .pure (some v) hR
    | none =>
      -- the first tier takes every name that it has
      obtain ⟨hnone, -⟩ := callFunction_eq_none hr
      simp [hnone] at hname
  have hcall : Abreast Akin
      (resolveTurns b (eval b fuel) (turns b fuel) ⟨name, args⟩ site c)
      (call b (eval b fuel) name args site c)
      (resolveTurns b (eval b fuel) (turns b fuel) ⟨name, args⟩ site d)
      (call b (eval b fuel) name args site d) := by
    refine hresolve.bindLast fun r c₁ d₁ _ _ hR => ?_
    cases r with
    | some v => exact .ok hR
    | none => exact .error hR
  exact ⟨hcall.result, sight_eq hcall.turns⟩

/-- A core with a function that uses a variable it does not bind, in the middle of some work. -/
def busyCore (frame : Frame Value) (calls : List CallEntry) : Core Value World :=
  ⟨64, [("f", ⟨"f", ["x"], [.var .nowhere "y"], .nowhere⟩)], frame, [⟨toplevelName, []⟩], calls,
    none, .off, [], World.start .standard ""⟩

theorem call_isolated_of_busyCore :
    Alike Akin
      (call Bridges.reflective (eval Bridges.reflective 3) "f" [.nil] none
        (busyCore ⟨"g", [("y", .int 1)]⟩ [⟨"g", .nowhere⟩]))
      (call Bridges.reflective (eval Bridges.reflective 3) "f" [.nil] none
        (busyCore ⟨"h", []⟩ [⟨"h", .nowhere⟩])) := by
  have hakin : Akin (busyCore ⟨"g", [("y", .int 1)]⟩ [⟨"g", .nowhere⟩])
      (busyCore ⟨"h", []⟩ [⟨"h", .nowhere⟩]) := ⟨rfl, rfl, rfl, rfl⟩
  exact (call_isolated Bridges.reflective hakin (by decide +kernel) [.nil] none 3).1

end Core

end Treewalk
