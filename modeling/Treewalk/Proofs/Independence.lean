import Treewalk.Proofs.Output
import Treewalk.Proofs.Shift.Host

/-!
# Independent runs

A runner keeps its host from one run to the next, and with it the heap: the lists that earlier runs
built and changed are still there, and so is all that was written. Only the core is a new one each
time. Nevertheless all that a run can tell of what came before it is what the machine under the host
has gone through: how many texts it was given to write, how often it was asked where something lies,
and whether somebody looked for the annotations of a class.

What earlier runs left, in a host that has no input to lose, is a shift of the world that a host
begins with on this machine (`Treewalk.World.IsSpent.clear_eq`). The bridge does not see a shift
(`Treewalk.Bridges.reflective_echoes`), so the evaluation in the used host mirrors the one in the
new host, move by move (`Treewalk.Core.Likeness.mirror`), also where a push is blocked, since the
limit is the same. In the end the values are shifts of one another, and these have the same picture.

Templates with attributes are how a program gets to know the machine. Of attributes that are marked
as private there are only two here, the class of a value and its annotations; with the others, which
are taken to be absent, a program could see more of this kind, but nothing of the heap.

* **`Treewalk.Session.run_independent`**: after any history, a run has the result that it has in a
  new host on the machine as the history left it. This is a new host on the machine that the session
  began with, if the machine always gives the same answer and nobody has looked for annotations.
* **`Treewalk.Session.run_dependent`**: a program that fails by itself, and does not after another
  one.
-/

namespace Treewalk

open Treewalk.Core

variable {V V' : Type}

/-! ### Results -/

/-- The same ending with other values. -/
def Ending.map (f : V → V') : Ending V → Ending V'
  | .finished v => .finished (f v)
  | .failed failure => .failed failure
  | .escaped fault => .escaped fault
  | .unfinished => .unfinished

/-- What is reported does not depend on the values. -/
theorem Ending.report_map (f : V → V') (e : Ending V) : (e.map f).report = e.report := by
  cases e <;> rfl

/-- **The result of a run**: how it ended, with its value as the tree that can be seen of it, and
what it put out. -/
def Run.result (run : Run Value World) : Ending Picture × List Effect :=
  (run.ending.map run.world.picture, run.effects)

theorem Run.result_snd (run : Run Value World) : run.result.2 = run.effects := rfl

/-! ### What earlier runs leave -/

namespace World

variable {w w' : World}

/-- A spent host stays one. -/
theorem IsSpent.of_onward (hw : w.IsSpent) (h : w.Onward w') : w'.IsSpent :=
  ⟨h.setting_eq.trans hw.setting_eq, h.registered_eq.trans hw.registered_eq,
    h.input_eq_nil hw.input_eq⟩

/-- All that was left in a world. -/
def leftover (w : World) : Shift := ⟨w.heap.cells, w.heap.stamps, w.output, w.ticks⟩

/-- A new standard host without input, on some machine. -/
def startOn (m : Machine) : World := { start .standard "" with machine := m }

theorem isStandard_startOn (m : Machine) : (startOn m).IsStandard where
  setting_eq := rfl
  registered_eq := rfl
  input_eq := String.toList_empty
  plain a c hc := by
    rw [Heap.cell?, startOn, start, Heap.empty, Array.getElem?_empty] at hc
    cases hc

/-- **A spent host whose effects are forgotten is a new one behind what was left**, on its
machine. -/
theorem IsSpent.clear_eq (hw : w.IsSpent) :
    { w with effects := #[] } = (startOn w.machine).shift w.leftover := by
  obtain ⟨setting, heap, registered, effects, output, input, ticks, machine⟩ := w
  obtain ⟨hsetting, hregistered, hinput⟩ := hw
  dsimp only at hsetting hregistered hinput
  subst hsetting hregistered hinput
  simp [startOn, start, shift, leftover, Heap.shift, Heap.empty]

end World

/-! ### Runs in a shifted world -/

section Runs

variable {r r' : Runner Value World} {w : World}

namespace Runner

/-- A run that met a fault has no value. -/
theorem map_ending (f : V → V') (fault : Fault) (current : Option Node) (calls : List CallEntry) :
    (ending fault current calls).map f = ending fault current calls := by
  unfold ending
  split <;> rfl

/-- Effects are forgotten once. -/
theorem run_clear (hr : r.bridge = Bridges.reflective) (tracing : Tracing) (fuel : Nat)
    (job : Job) : r.run tracing fuel job { w with effects := #[] } = r.run tracing fuel job w := by
  simp only [run, hr]
  rfl

end Runner

/-- A new core in a standard world, and one in its shift. -/
theorem Core.Likeness.fresh_shift (hw : w.IsStandard) (s : Shift) (depth : Int)
    (tracing tracing' : Tracing) :
    Likeness (Value.shift s) Eq (Shifted s) (Core.fresh depth tracing w)
      (Core.fresh depth tracing' (w.shift s)) :=
  ⟨rfl, rfl, rfl, rfl, rfl, rfl, hw, rfl⟩

/-- **An evaluation in a shifted world is the image of the one in the world itself.** -/
theorem Program.eval_shift (p : Program) (hw : w.IsStandard) (s : Shift) (fuel : Nat)
    (depth : Int) (tracing tracing' : Tracing) :
    Image (Value.shift s) (Likeness (Value.shift s) Eq (Shifted s))
      (p.eval Bridges.reflective fuel (Core.fresh depth tracing w))
      (p.eval Bridges.reflective fuel (Core.fresh depth tracing' (w.shift s))) := by
  -- the limits are the same, so that blocked pushes are mirrored as well
  have hmirror : Mirror True (Value.shift s) Bridges.reflective Bridges.reflective
      (Likeness (Value.shift s) Eq (Shifted s)) :=
    Likeness.mirror (Bridges.reflective_echoes s) (fun _ _ h => Int.le_of_eq h)
      fun _ _ _ h => Int.le_of_eq h.symm
  have hmirrors := hmirror.program fuel p (.fresh_shift hw s depth tracing tracing')
  exact (hmirrors fun _ _ _ => trivial).result

namespace Runner

/-- **A run in a shifted world has the same result.** -/
theorem result_run_shift (hr : r.bridge = Bridges.reflective) (hr' : r'.bridge = Bridges.reflective)
    (hdepth : r'.maxDepth = r.maxDepth) (hw : w.IsStandard) (s : Shift) (tracing tracing' : Tracing)
    (fuel : Nat) (p : Program) :
    (r'.run tracing' fuel (.program p) (w.shift s)).result =
      (r.run tracing fuel (.program p) w).result := by
  have hclear : (Bridges.reflective.clear w).IsStandard :=
    ⟨⟨hw.setting_eq, hw.registered_eq, hw.input_eq⟩, hw.plain⟩
  have himage := p.eval_shift hclear s fuel r.maxDepth tracing tracing'
  have hshift : (Bridges.reflective.clear w).shift s = Bridges.reflective.clear (w.shift s) := rfl
  rw [hshift] at himage
  simp only [run, Job.load, evaluate, evaluation, hr, hr', hdepth]
  generalize p.eval Bridges.reflective fuel
    (Core.fresh r.maxDepth tracing (Bridges.reflective.clear w)) = result at himage
  generalize p.eval Bridges.reflective fuel
    (Core.fresh r.maxDepth tracing' (Bridges.reflective.clear (w.shift s))) = result' at himage
  cases himage with
  | @ok v c d hlike =>
    obtain ⟨hstandard, hworld⟩ := hlike.world
    simp only [Run.result, Ending.map, hworld, World.picture_shift hstandard.plain]
    rfl
  | @error halt c d hlike =>
    obtain ⟨-, hworld⟩ := hlike.world
    cases halt with
    | fault f =>
      -- what a report says of a fault is read off the core, not off the world
      simp only [Run.result, hworld, hlike.current_eq, hlike.calls_eq, map_ending]
      rfl
    | outOfFuel =>
      simp only [Run.result, Ending.map, hworld]
      rfl

end Runner

end Runs

namespace Session

/-- **Runs on one runner are independent**, up to the machine under the host. In a session with a
standard host at the end of its input and the bridge that reflects it, after any errands, a program
has the result that it has with a runner of the same limit in a new host on the machine as the
errands left it: it ends in the same way, with the same value, failure or fault, and puts out the
same. Of the machine only answers were used up, and annotations may have been made. So it is the
result in a new host on the machine that the session began with, if nobody has looked for
annotations and the machine gives the same answer whenever it is asked. -/
theorem run_independent {s : Session Value World} (hs : s.runner.bridge = Bridges.reflective)
    (hw : s.world.IsSpent) (history : List Errand) (p : Program) (tracing tracing' : Tracing)
    (fuel : Nat) (r : Runner Value World) (hr : r.bridge = Bridges.reflective)
    (hdepth : r.maxDepth = s.runner.maxDepth) :
    ∃ run, ((s.after history).step ⟨.job (.program p), tracing, fuel⟩).1 = .ok run ∧
      run.result = (r.run tracing' fuel (.program p)
        (World.startOn (s.after history).world.machine)).result ∧
      s.world.machine.Onward (s.after history).world.machine ∧
      (s.world.machine.IsSteady →
        (s.after history).world.machine.annotated = s.world.machine.annotated →
        run.result =
          (r.run tracing' fuel (.program p) (World.startOn s.world.machine)).result) := by
  obtain ⟨hbridge, hlimit⟩ := after_runner history s
  have honward := after_onward history (.inl hs)
  generalize s.after history = before at hbridge hlimit honward
  have hspent : before.world.IsSpent := hw.of_onward honward
  obtain ⟨run, hrun, hresult⟩ : ∃ run,
      (before.step ⟨.job (.program p), tracing, fuel⟩).1 = .ok run ∧ run.result =
        (r.run tracing' fuel (.program p) (World.startOn before.world.machine)).result := by
    refine ⟨_, rfl, ?_⟩
    dsimp only [Task.fileName]
    rw [← Runner.run_clear (hbridge.trans hs), hspent.clear_eq]
    exact Runner.result_run_shift hr (hbridge.trans hs) (hlimit.trans hdepth.symm)
      (World.isStandard_startOn _) _ tracing' tracing fuel p
  refine ⟨run, hrun, hresult, honward.machine, fun hsteady hannotated => ?_⟩
  rw [hresult, honward.machine.eq_of_isSteady hsteady hannotated]

/-- A function that puts a text out, changes a list of its own and then looks at a variable that is
nowhere. -/
def untidy : Program :=
  ⟨"-", [.define .nowhere "f" ["x"] [
      .call .nowhere "puts" [.string .nowhere "left"],
      .call .nowhere "append" [.var .nowhere "x", .var .nowhere "x"],
      .var .nowhere "y"],
    .call .nowhere "f" [.call .nowhere "list" []]]⟩

/-- A program that makes a list of two texts and looks at it. -/
def tidy : Program :=
  ⟨"-", [.call .nowhere "p" [
    .call .nowhere "list" [.string .nowhere "a", .string .nowhere "b"]]]⟩

theorem run_independent_of_untidy :
    (beginning.after [⟨.job (.program untidy), .off, 9⟩]).world.heap.cells.size = 1 ∧
    ∃ run, ((beginning.after [⟨.job (.program untidy), .off, 9⟩]).step
        ⟨.job (.program tidy), .off, 9⟩).1 = .ok run ∧
      run.result = (beginning.runner.run .off 9 (.program tidy) (World.start .standard "")).result ∧
      run.effects.map (·.message) = ["[\"a\", \"b\"]\n"] := by
  obtain ⟨run, hrun, -, -, hresult⟩ := run_independent (s := beginning) rfl ⟨rfl, rfl, by decide⟩
    [⟨.job (.program untidy), .off, 9⟩] tidy .off .off 9 beginning.runner rfl rfl
  have hfresh : run.result =
      (beginning.runner.run .off 9 (.program tidy) (World.start .standard "")).result :=
    hresult ⟨fun _ => rfl, fun _ => rfl⟩ (by decide +kernel)
  refine ⟨by decide +kernel, run, hrun, hfresh, ?_⟩
  rw [← run.result_snd, hfresh]
  decide +kernel

/-- A program that formats a text with a template. -/
def formatting (template : String) : Program :=
  ⟨"-", [.call .nowhere "format" [.string .nowhere template, .string .nowhere "x"]]⟩

/-- A program that looks for the annotations of a text, which has none by itself. -/
def asking : Program := formatting "\x7b0.__annotations__\x7d"

/-- A program that looks for the annotations of its class, and so makes them. -/
def annotating : Program := formatting "\x7b0.__class__.__annotations__\x7d"

/-- **A run that depends on an earlier one.** By itself the program fails. After another one that
made the annotations it finds them, and ends in a value. -/
theorem run_dependent : ∃ run, ((beginning.after [errandOf annotating]).step (errandOf asking)).1 =
      .ok run ∧
    run.ending.report = "" ∧
    (beginning.runner.run .off 3 (.program asking) (World.start .standard "")).ending.report =
      "EnvironmentFailure: AttributeError: 'StringValue' object has no attribute " ++
        "'__annotations__'" ∧
    run.result ≠
      (beginning.runner.run .off 3 (.program asking) (World.start .standard "")).result := by
  refine ⟨_, rfl, by decide +kernel, by decide +kernel, fun h => ?_⟩
  -- different reports belong to different endings
  have hreport := congrArg (fun result => result.1.report) h
  simp only [Run.result, Ending.report_map] at hreport
  revert hreport
  decide +kernel

end Session

end Treewalk
