import Treewalk.Proofs.Lockstep

/-!
# What a recording bridge writes down

The turns of an evaluation are listed beside the evaluator, not by it. A bridge that records is
asked by the evaluator itself, and what it writes down is there in its own state. This file compares
the two: with a recording bridge an evaluation goes as it does without
(`Treewalk.Core.Beside.lockstep`), and the record has grown by the invocations among the turns, the
last one first.

* **`Treewalk.Program.recorded`**: the two together, for a program.
-/

namespace Treewalk

open Treewalk.Core

variable {V W L α : Type}

/-- The invocation that is made at a turn, if one is. -/
def Turn.invocation? (t : Turn V W) : Option (Invocation V W) :=
  match t.move with
  | .invoke call target args => some ⟨target, call.name, args, t.core.world⟩
  | _ => none

/-- **The invocations among turns**, in order. -/
def invocations (ts : List (Turn V W)) : List (Invocation V W) := ts.filterMap Turn.invocation?

/-- The same moves in the same surroundings are the same invocations. -/
theorem invocations_eq_of_moves {ts ts' : List (Turn V W)}
    (h : List.Forall₂ (fun t t' => t'.move = t.move ∧ t'.core.world = t.core.world) ts ts') :
    invocations ts' = invocations ts := by
  induction h with
  | nil => rfl
  | @cons t t' ts ts' hhead _ ih =>
    obtain ⟨hmove, hworld⟩ := hhead
    have hsame : t'.invocation? = t.invocation? := by
      simp only [Turn.invocation?, hmove, hworld]
    simp only [invocations, List.filterMap_cons, hsame] at ih ⊢
    rw [ih]

/-! ### With something beside the surroundings -/

namespace Bridge

theorem onFirst_of_ok {x : Ask W α} {w w₁ : W} (l : L) {a : α} (h : x w = .ok a w₁) :
    onFirst x (w, l) = .ok a (w₁, l) := by
  simp only [onFirst, h]

theorem onFirst_of_error {x : Ask W α} {w w₁ : W} (l : L) {f : Fault} (h : x w = .error f w₁) :
    onFirst x (w, l) = .error f (w₁, l) := by
  simp only [onFirst, h]

/-- An invocation is written down before it is made. -/
theorem recorded_invoke (b : Bridge V W) (activation : Activation) (target : V) (name : String)
    (args : List V) (w : W × List (Invocation V W)) :
    b.recorded.invoke activation target name args w =
      onFirst (b.invoke activation target name args) (w.1, ⟨target, name, args, w.1⟩ :: w.2) := rfl

end Bridge

namespace Core

/-- A core with something beside its surroundings. -/
def beside (l : L) (c : Core V W) : Core V (W × L) := { c with world := (c.world, l) }

/-- **One core is another with something beside its surroundings**, apart from the trace. -/
structure Beside (c : Core V W) (d : Core V (W × L)) : Prop where
  maxDepth_eq : d.maxDepth = c.maxDepth
  functions_eq : d.functions = c.functions
  frame_eq : d.frame = c.frame
  below_eq : d.below = c.below
  calls_eq : d.calls = c.calls
  current_eq : d.current = c.current
  world_eq : d.world.1 = c.world

theorem Beside.of_beside (l : L) (c : Core V W) : Beside c (c.beside l) :=
  ⟨rfl, rfl, rfl, rfl, rfl, rfl, rfl⟩

namespace Beside

variable {c : Core V W} {d : Core V (W × L)}

theorem depth_eq (h : Beside c d) : d.depth = c.depth := by rw [depth, depth, h.below_eq]

theorem activation_eq (h : Beside c d) : d.activation = c.activation := by
  rw [activation, activation, h.frame_eq, h.depth_eq]

theorem noted (h : Beside c d) (line line' : TraceLine) :
    Beside (c.noted line) (d.noted line') :=
  ⟨by simpa using h.maxDepth_eq, by simpa using h.functions_eq, by simpa using h.frame_eq,
    by simpa using h.below_eq, by simpa using h.calls_eq, by simpa using h.current_eq,
    by simpa using h.world_eq⟩

theorem inWorld (h : Beside c d) (w : W) (l : L) : Beside (c.inWorld w) (d.inWorld (w, l)) :=
  ⟨h.maxDepth_eq, h.functions_eq, h.frame_eq, h.below_eq, h.calls_eq, h.current_eq, rfl⟩

theorem entered (h : Beside c d) (name : String) (site : Option Place) :
    Beside (c.entered name site) (d.entered name site) :=
  ⟨by simpa using h.maxDepth_eq, by simpa using h.functions_eq, by simp,
    by simp [h.frame_eq, h.below_eq], by simp [h.calls_eq], by simpa using h.current_eq,
    by simpa using h.world_eq⟩

theorem left (h : Beside c d) : Beside c.left d.left := by
  cases hb : c.below with
  | nil =>
    have hc : c.left = c := by simp [Core.left, hb]
    have hd : d.left = d := by simp [Core.left, h.below_eq, hb]
    rwa [hc, hd]
  | cons f rest =>
    obtain ⟨hframe, hbelow, hcalls⟩ := left_of_below hb
    obtain ⟨hframe', hbelow', hcalls'⟩ := left_of_below (h.below_eq.trans hb)
    refine ⟨by simpa using h.maxDepth_eq, by simpa using h.functions_eq, ?_, ?_, ?_,
      by simpa using h.current_eq, by simpa using h.world_eq⟩
    · rw [hframe, hframe']
    · rw [hbelow, hbelow']
    · rw [hcalls, hcalls', h.calls_eq]

/-- A question that is answered by the surroundings, whatever happens to what is beside them. -/
theorem ask (h : Beside c d) {x : Ask W α} {y : Ask (W × L) α} {l : L}
    (hy : y d.world = Bridge.onFirst x (d.world.1, l)) : Alike Beside (ask x c) (ask y d) := by
  rw [h.world_eq] at hy
  cases hx : x c.world with
  | ok a w =>
    rw [Bridge.onFirst_of_ok l hx] at hy
    rw [ask_of_ok hx, ask_of_ok hy]
    exact .ok (h.inWorld w l)
  | error f w =>
    rw [Bridge.onFirst_of_error l hx] at hy
    rw [ask_of_error hx, ask_of_error hy]
    exact .error (h.inWorld w l)

end Beside

/-- **A recording bridge changes nothing.** -/
theorem Beside.lockstep (b : Bridge V W) : Lockstep b b.recorded Beside where
  nil_eq := rfl
  literal_eq := rfl
  environment_eq := rfl
  weaken h := h
  frame_eq h := h.frame_eq
  functions_eq h := h.functions_eq
  full_iff h := by rw [h.maxDepth_eq, h.depth_eq]
  noted line line' h := h.noted line line'
  visited _ h :=
    ⟨h.maxDepth_eq, h.functions_eq, h.frame_eq, h.below_eq, h.calls_eq, rfl, h.world_eq⟩
  assigned _ _ h :=
    ⟨h.maxDepth_eq, h.functions_eq, by simp [h.frame_eq], h.below_eq, h.calls_eq, h.current_eq,
      h.world_eq⟩
  bound _ _ h :=
    ⟨h.maxDepth_eq, h.functions_eq, by simp [h.frame_eq], h.below_eq, h.calls_eq, h.current_eq,
      h.world_eq⟩
  defined _ _ h :=
    ⟨by simpa using h.maxDepth_eq, by simp [h.functions_eq], by simpa using h.frame_eq,
      by simpa using h.below_eq, by simpa using h.calls_eq, by simpa using h.current_eq,
      by simpa using h.world_eq⟩
  entered name site h := h.entered name site
  left _ h' _ _ := h'.left
  text s h := by
    have htext : b.recorded.text s = fun w => ((b.text s w.1).1, (b.text s w.1).2, w.2) := rfl
    rw [make_apply, make_apply, htext]
    simp only [h.world_eq]
    exact .ok (h.inWorld _ _)
  has _ _ h := h.ask rfl
  invoke target name args h := by
    rw [h.activation_eq]
    exact h.ask (b.recorded_invoke _ target name args _)
  truthy _ h := h.ask rfl

/-- What is beside the surroundings stays when only these are asked. -/
theorem coreOf_ask_onFirst (x : Ask W α) (y : Ask (W × L) α) (l : L) (c : Core V (W × L))
    (hy : y c.world = Bridge.onFirst x (c.world.1, l)) : (coreOf (ask y c)).world.2 = l := by
  cases hx : x c.world.1 with
  | ok a w =>
    rw [Bridge.onFirst_of_ok l hx] at hy
    rw [ask_of_ok hy]
    rfl
  | error f w =>
    rw [Bridge.onFirst_of_error l hx] at hy
    rw [ask_of_error hy]
    rfl

end Core

/-! ### The record -/

/-- What is written down at a turn, if something is. -/
def Turn.written? (t : Turn V (W × L)) : Option (Invocation V W) :=
  match t.move with
  | .invoke call target args => some ⟨target, call.name, args, t.core.world.1⟩
  | _ => none

/-- **Along a course the record grows by what is written down at its turns**, the last one first. -/
theorem Course.record {b : Bridge V W} {s : Subject V} {c c' : Core V (W × List (Invocation V W))}
    {ts : List (Turn V (W × List (Invocation V W)))} {o : Option Halt}
    (h : Course b.recorded s c ts o c') :
    c'.world.2 = (ts.filterMap Turn.written?).reverse ++ c.world.2 := by
  induction h with
  | rest | cut | visit | make | assign | conflict | unresolved | tooDeep => rfl
  | next _ _ ih ih' =>
    rw [ih', ih, List.filterMap_append, List.reverse_append, List.append_assoc]
  | note => simp
  | define => simp [Turn.written?]
  | @truthy _ c _ v => exact coreOf_ask_onFirst (b.truthy v) _ c.world.2 c rfl
  | call _ _ _ _ ih => exact ih
  | arity => simp [Turn.written?]
  | inside _ _ _ _ ih => simpa [Turn.written?, List.filterMap_cons] using ih
  | through _ _ _ _ ih => simpa [Turn.written?, List.filterMap_cons] using ih
  | @has request _ _ c target =>
    exact coreOf_ask_onFirst (b.has target request.name) _ c.world.2 c rfl
  | @invoke request _ _ c target args =>
    exact coreOf_ask_onFirst (b.invoke c.activation target request.name args) _ _ c
      (b.recorded_invoke c.activation target request.name args c.world)

/-- The same moves in the same surroundings are written down alike. -/
theorem invocations_eq_written {ts : List (Turn V W)} {ts' : List (Turn V (W × L))}
    (h : List.Forall₂ (fun t t' => t.move = t'.move ∧ Beside t.core t'.core) ts ts') :
    ts'.filterMap Turn.written? = invocations ts := by
  induction h with
  | nil => rfl
  | @cons t t' ts ts' hhead _ ih =>
    obtain ⟨hmove, hcore⟩ := hhead
    have hwritten : t'.written? = t.invocation? := by
      simp only [Turn.written?, Turn.invocation?, hmove, hcore.world_eq]
    simp only [invocations, List.filterMap_cons, hwritten] at ih ⊢
    rw [ih]

/-- **A recording bridge writes down the invocations of a program, and changes nothing else.** -/
theorem Program.recorded (b : Bridge V W) (fuel : Nat) (p : Program) (log : List (Invocation V W))
    (c : Core V W) :
    Alike Beside (p.eval b fuel c) (p.eval b.recorded fuel (c.beside log)) ∧
      (coreOf (p.eval b.recorded fuel (c.beside log))).world.2 =
        (invocations (p.turns b fuel c)).reverse ++ log := by
  obtain ⟨hturns, hresult⟩ := (Beside.lockstep b).program fuel p (Beside.of_beside log c)
  have hrecord := (p.eval_follows b.recorded fuel (c.beside log)).record
  rw [invocations_eq_written hturns] at hrecord
  exact ⟨hresult, hrecord⟩

end Treewalk
