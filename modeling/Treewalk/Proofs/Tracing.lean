import Treewalk.Proofs.Ceiling
import Treewalk.Proofs.Location

/-!
# Tracing is not seen

The debug trace is written between all other things that an evaluation does: before a function is
registered, after a frame is pushed, while a call looks for the tier that takes it. None of this
shows. Whether a trace is written, or not, or to a place where every write fails, a run ends in the
same way, puts out the same, invokes the same capabilities and leaves the same core behind, apart
from the trace itself (`Treewalk.Run.untraced`).

Cores that differ in nothing but their tracing are alike in the sense of `Treewalk.Core.Likeness`,
with the identity for the image of values, so one evaluation mirrors the other. That nothing is
traced unless a trace is wanted is read off the course of the evaluation
(`Treewalk.Course.trace_eq`).

* **`Treewalk.Runner.tracing_unseen`**: the law for a run of any job.
-/

namespace Treewalk

open Treewalk.Core

variable {V W : Type}

/-! ### What is left without the trace -/

/-- **A core without its trace**: no line is in it, and none is to be written. -/
def Core.untraced (c : Core V W) : Core V W := { c with tracing := .off, trace := [] }

/-- A turn, in a core without a trace. -/
def Turn.untraced (t : Turn V W) : Turn V W := { t with core := t.core.untraced }

/-- **A run without its trace**: how it ended, what it put out, the surroundings, and the core
without its trace. -/
def Run.untraced (run : Run V W) : Run V W := { run with core := run.core.map Core.untraced }

/-- The lines that a run has traced. -/
def Run.traceLines (run : Run V W) : List String := run.core.elim [] Core.traceLines

/-- What is invoked at a turn has nothing to do with the trace. -/
theorem invocations_map_untraced (ts : List (Turn V W)) :
    invocations (ts.map Turn.untraced) = invocations ts := by
  rw [invocations, invocations, List.filterMap_map]
  rfl

/-! ### Two ways of tracing -/

namespace Core

variable {c d : Core V W}

/-- Cores that are alike are the same without their traces. -/
theorem Likeness.untraced_eq (h : Likeness id Eq Eq c d) : d.untraced = c.untraced := by
  simp only [untraced, ← h.limit, h.functions_eq, h.frame_eq_self, h.below_eq_self, h.calls_eq,
    h.current_eq, ← h.world]

theorem Likeness.fresh_tracing (maxDepth : Int) (tracing tracing' : Tracing) (w : W) :
    Likeness id Eq Eq (Core.fresh maxDepth tracing w : Core V W)
      (Core.fresh maxDepth tracing' w) :=
  ⟨rfl, rfl, rfl, rfl, rfl, rfl, rfl⟩

end Core

/-- **An evaluation mirrors itself** in a core that differs in its trace only. -/
theorem Program.mirrored_tracing (b : Bridge V W) (p : Program) (fuel : Nat) {c d : Core V W}
    (h : Likeness id Eq Eq c d) :
    Mirrored id id (Likeness id Eq Eq) (p.turns b fuel c) (p.eval b fuel c) (p.turns b fuel d)
      (p.eval b fuel d) :=
  (Likeness.mirror_self b).program fuel p h fun _ _ _ => trivial

/-- What is mirrored is the same without the trace. -/
theorem Turn.untraced_eq {t t' : Turn V W} (hmove : t'.move = t.move.map id)
    (hcore : Likeness id Eq Eq t.core t'.core) : t'.untraced = t.untraced := by
  rw [Turn.untraced, Turn.untraced, hcore.untraced_eq, hmove, Move.map_id]

theorem Program.turns_untraced (b : Bridge V W) (p : Program) (fuel : Nat) {c d : Core V W}
    (h : Likeness id Eq Eq c d) :
    (p.turns b fuel d).map Turn.untraced = (p.turns b fuel c).map Turn.untraced := by
  have hturns := (p.mirrored_tracing b fuel h).turns
  generalize p.turns b fuel c = ts at hturns ⊢
  generalize p.turns b fuel d = ts' at hturns ⊢
  induction hturns with
  | nil => rfl
  | cons hhead _ ih => rw [List.map_cons, List.map_cons, ih, Turn.untraced_eq hhead.1 hhead.2]

namespace Runner

variable (r : Runner V W) (tracing tracing' : Tracing) (fuel : Nat)

/-- The run of a program is the same without the trace. -/
theorem run_program_untraced (p : Program) (w : W) :
    (r.run tracing' fuel (.program p) w).untraced =
      (r.run tracing fuel (.program p) w).untraced := by
  have himage := (p.mirrored_tracing r.bridge fuel
    (.fresh_tracing r.maxDepth tracing tracing' (r.bridge.clear w))).result
  simp only [run_program, start]
  generalize p.eval r.bridge fuel (Core.fresh r.maxDepth tracing _) = result at himage
  generalize p.eval r.bridge fuel (Core.fresh r.maxDepth tracing' _) = result' at himage
  cases himage with
  | ok hlike => simp only [Run.untraced, Option.map_some, hlike.untraced_eq, ← hlike.world, id]
  | @error halt _ _ hlike =>
    cases halt with
    | fault f =>
      -- a report is made from the fault, the node and the calls
      simp only [Run.untraced, Option.map_some, hlike.untraced_eq, ← hlike.world, hlike.current_eq,
        hlike.calls_eq]
    | outOfFuel => simp only [Run.untraced, Option.map_some, hlike.untraced_eq, ← hlike.world]

end Runner

/-! ### No trace unless one is wanted -/

namespace Core

variable {c : Core V W}

theorem noted_eq_self (h : c.tracing ≠ .on) (line : TraceLine) : c.noted line = c := if_neg h

theorem left_trace_eq (h : c.tracing ≠ .on) :
    c.left.tracing = c.tracing ∧ c.left.trace = c.trace := by
  unfold left
  cases c.below with
  | nil => exact ⟨rfl, rfl⟩
  | cons f rest =>
    -- the frame is popped first, and then the line is left out
    have hnoted (c' : Core V W) (hc' : c'.tracing = c.tracing) (line : TraceLine) :
        c'.noted line = c' := noted_eq_self (hc' ▸ h) line
    simp only [hnoted, and_self]

end Core

/-- **Along a course nothing is traced** unless a trace is to be written. -/
theorem Course.trace_eq {b : Bridge V W} {s : Subject V} {c c' : Core V W} {ts : List (Turn V W)}
    {o : Option Halt} (h : Course b s c ts o c') (hc : c.tracing ≠ .on) :
    c'.tracing = c.tracing ∧ c'.trace = c.trace := by
  have asked {α : Type} (x : Ask W α) (c : Core V W) :
      (coreOf (ask x c)).tracing = c.tracing ∧ (coreOf (ask x c)).trace = c.trace := by
    rw [coreOf_ask]
    exact ⟨rfl, rfl⟩
  have enters (c : Core V W) (hc : c.tracing ≠ .on) (name : String) (site : Option Place) :
      c.entered name site = c.pushed name site := noted_eq_self (c := c.pushed name site) hc _
  induction h with
  | rest | cut | visit | make | assign | conflict | unresolved | tooDeep => exact ⟨rfl, rfl⟩
  | next _ _ ih ih' =>
    obtain ⟨htracing, htrace⟩ := ih hc
    obtain ⟨htracing', htrace'⟩ := ih' (htracing ▸ hc)
    exact ⟨htracing'.trans htracing, htrace'.trans htrace⟩
  | note line =>
    rw [noted_eq_self hc]
    exact ⟨rfl, rfl⟩
  | define =>
    rw [defined, noted_eq_self hc]
    exact ⟨rfl, rfl⟩
  | truthy | has | invoke => exact asked _ _
  | call _ _ _ _ ih => exact ih hc
  | arity =>
    rw [enters _ hc]
    exact ⟨rfl, rfl⟩
  | inside _ _ _ _ ih =>
    rw [enters _ hc] at ih
    exact ih hc
  | @through _ _ _ c c' _ _ _ _ _ _ ih =>
    rw [enters _ hc] at ih
    obtain ⟨htracing, htrace⟩ := ih hc
    have hc' : c'.tracing ≠ .on := htracing ▸ hc
    obtain ⟨hleft, hleft'⟩ := left_trace_eq hc'
    exact ⟨hleft.trans htracing, hleft'.trans htrace⟩

/-! ### Runs -/

namespace Runner

variable (r : Runner V W)

theorem turns_untraced (tracing tracing' : Tracing) (fuel : Nat) (job : Job) (w : W) :
    (r.turns tracing' fuel job w).map Turn.untraced =
      (r.turns tracing fuel job w).map Turn.untraced := by
  unfold turns
  split
  · exact Program.turns_untraced r.bridge _ fuel (.fresh_tracing _ _ _ _)
  · rfl

theorem run_untraced (tracing tracing' : Tracing) (fuel : Nat) (job : Job) (w : W) :
    (r.run tracing' fuel job w).untraced = (r.run tracing fuel job w).untraced := by
  cases hload : job.load r.file with
  | error fault => cases fault <;> simp only [run, hload]
  | ok found =>
    cases found with
    | error typeName =>
      simp only [run, hload]
      rfl
    | ok p =>
      rw [r.run_of_load tracing' fuel p w hload, r.run_of_load tracing fuel p w hload]
      exact r.run_program_untraced tracing tracing' fuel p w

/-- Nothing is traced by a run unless a trace is to be written. -/
theorem traceLines_run {tracing : Tracing} (h : tracing ≠ .on) (fuel : Nat) (job : Job) (w : W) :
    (r.run tracing fuel job w).traceLines = [] := by
  cases hload : job.load r.file with
  | error fault => cases fault <;> simp only [run, hload] <;> rfl
  | ok found =>
    cases found with
    | error typeName =>
      simp only [run, hload]
      rfl
    | ok p =>
      obtain ⟨-, htrace⟩ := (p.eval_follows r.bridge fuel (r.start tracing w)).trace_eq h
      rw [r.run_of_load tracing fuel p w hload, Run.traceLines, run_core, Option.elim_some,
        Core.traceLines, htrace]
      rfl

/-- **Tracing is not seen.** Whether a trace is written, or not, or to a place where every write
fails, a job is run with the same turns, in the same surroundings, and the same comes of it: the
way the run ends, what it puts out, and the core that it leaves behind, but for the trace. In
particular the invocations are the same. And nothing is traced unless a trace is to be written. -/
theorem tracing_unseen (tracing tracing' : Tracing) (fuel : Nat) (job : Job) (w : W) :
    (r.run tracing' fuel job w).untraced = (r.run tracing fuel job w).untraced ∧
      (r.turns tracing' fuel job w).map Turn.untraced =
        (r.turns tracing fuel job w).map Turn.untraced ∧
      invocations (r.turns tracing' fuel job w) = invocations (r.turns tracing fuel job w) ∧
      (r.run .off fuel job w).traceLines = [] ∧ (r.run .broken fuel job w).traceLines = [] := by
  have hturns := r.turns_untraced tracing tracing' fuel job w
  refine ⟨r.run_untraced tracing tracing' fuel job w, hturns, ?_,
    r.traceLines_run (by decide) fuel job w, r.traceLines_run (by decide) fuel job w⟩
  rw [← invocations_map_untraced, hturns, invocations_map_untraced]

end Runner

end Treewalk
