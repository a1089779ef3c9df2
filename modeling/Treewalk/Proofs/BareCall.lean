import Treewalk.Host.Bridges
import Treewalk.Proofs.Mismatch
import Treewalk.Proofs.Rewording

/-!
# Bare names and empty calls

A name that stands alone is a variable if there is one of that name, and else a call without
arguments. So a call without arguments may be written as a bare name wherever no variable of that
name can get in the way, which is so if the program never binds one: a frame holds the parameters of
its function and what is assigned while it is active, and nothing else.

There are two ways through the evaluator for the two spellings, and one difference between them that
can be seen. A call of a name that nobody knows says that the function is undefined, and a bare name
says that it knows neither a method nor a variable. Everything else about that failure is the same.

* **`Treewalk.Runner.bare_calls`**: the law for runs of two programs, in one of which some calls are
  written as bare names.
-/

namespace Treewalk

open Treewalk.Core

variable {V W : Type}

/-- **A call of a name without arguments becomes the bare name**, at the same place. -/
inductive Node.CallToBare (name : String) : Node → Node → Prop
  /-- At any place. -/
  | at (place : Place) : CallToBare name (.call place name []) (.var place name)

/-- One name stands bare, and none is spare. -/
def Wording.ofBare (name : String) : Wording := ⟨∅, {name}, fun _ _ => Set.notMem_empty _⟩

/-- What binds other names only may be worded with a name bare. -/
theorem Wording.fits_ofBare {name : String} {n : Node} (h : name ∉ n.binds) :
    (ofBare name).Fits n where
  binds _ hother := ⟨Set.notMem_empty _, fun heq => h (Set.mem_singleton_iff.mp heq ▸ hother)⟩
  reads _ _ := Set.notMem_empty _

namespace Runner

variable (r : Runner V W) (tracing : Tracing) (fuel : Nat) (p p' : Program) (w : W)

/-- **A bare name and an empty call are the same call.** Let a program never bind a variable of some
name, neither in an assignment nor as a parameter. If any calls of that name without arguments are
written as bare names, anywhere in the program, then it runs as before, in any surroundings: it puts
out the same, makes the same invocations, and leaves the same surroundings behind. It ends in the
same way too, with the same value or the same report, unless it fails because of a call that was
written as a bare name, and is not known: then the report says so in other words, and is the same
otherwise. -/
theorem bare_calls {name : String} (hname : ∀ n : Node, n.Occurs p.body → name ∉ n.binds)
    (hp : List.Forall₂ (Node.Rewritten (Node.CallToBare name)) p.body p'.body) :
    let run := r.run tracing fuel (.program p) w
    let run' := r.run tracing fuel (.program p') w
    run'.effects = run.effects ∧ run'.world = run.world ∧
      invocations (r.turns tracing fuel (.program p') w) =
        invocations (r.turns tracing fuel (.program p) w) ∧
      (∀ place failure, r.RefusesBare tracing fuel p p' w name place failure →
        failure.kind = "UnresolvedCall" ∧
        failure.message = place.locate ("undefined function " ++ name) ∧
        run'.ending = .failed { failure with
          message := place.locate ("unknown method or local variable " ++ name) }) ∧
      ((¬ ∃ place failure, r.RefusesBare tracing fuel p p' w name place failure) →
        run'.ending = run.ending) := by
  intro run run'
  have hvariants : Variants (Wording.ofBare name) id p.body p'.body := by
    refine .of_rewritten (fun n hn => Wording.fits_ofBare (hname n hn)) ?_ hp
    rintro _ _ _ ⟨place⟩
    exact .bare rfl
  obtain ⟨heffects, hworld, hinvocations, hends⟩ := r.variants_run tracing fuel p p' w hvariants
  refine ⟨heffects, hworld, hinvocations, ?_⟩
  rcases hends with ⟨halike, hnone⟩ |
    ⟨name', hname', place, failure, hrefused, hkind, hmessage, hending'⟩
  · exact ⟨fun place failure hrefused => absurd hrefused (hnone name place failure),
      fun _ => halike⟩
  · obtain rfl : name' = name := hname'
    refine ⟨fun place₁ failure₁ hrefused₁ => ?_, fun hnone => absurd ⟨_, _, hrefused⟩ hnone⟩
    obtain ⟨-, rfl, rfl⟩ := hrefused.unique hrefused₁
    exact ⟨hkind, hmessage, hending'⟩

/-- A function that does nothing but evaluate a node, and a call of it. -/
def haunted (ghost : Node) : Program :=
  ⟨"haunted", [
    .define ⟨.str "haunted", .int 1⟩ "f" [] [ghost],
    .call ⟨.str "haunted", .int 4⟩ "f" []]⟩

theorem bare_calls_of_haunted :
    let r := Runner.mk Bridges.reflective "haunted" 64
    let w := World.start .standard ""
    let place : Place := ⟨.str "haunted", .int 2⟩
    let p := haunted (.call place "ghost" [])
    let p' := haunted (.var place "ghost")
    (∀ n : Node, n.Occurs p.body → "ghost" ∉ n.binds) ∧
      ∃ (failure : Failure) (site : Place),
        (r.run .off 6 (.program p) w).ending = .failed failure ∧
        failure.message = site.locate "undefined function ghost" ∧
        (r.run .off 6 (.program p') w).ending = .failed { failure with
          message := site.locate "unknown method or local variable ghost" } := by
  intro r w place p p'
  have hname : ∀ n : Node, n.Occurs p.body → "ghost" ∉ n.binds := by
    intro n hn
    simp only [p, haunted, Node.occurs_cons, Node.children, Node.parts, Node.not_occurs_nil,
      or_false] at hn
    rcases hn with rfl | rfl | rfl <;> simp [Node.binds]
  have hp : List.Forall₂ (Node.Rewritten (Node.CallToBare "ghost")) p.body p'.body :=
    .cons (.define (.cons (.replaced (.at place)) .nil)) (.cons (.same _) .nil)
  obtain ⟨-, -, -, hrefused, hother⟩ := bare_calls r .off 6 p p' w hname hp
  have hdiffers : ¬ (r.run .off 6 (.program p') w).ending.failure?.map Failure.message =
      (r.run .off 6 (.program p) w).ending.failure?.map Failure.message := by decide +kernel
  obtain ⟨site, failure, h⟩ := not_not.mp (mt hother fun heq => hdiffers (by rw [heq]))
  obtain ⟨-, hmessage, hending'⟩ := hrefused site failure h
  exact ⟨hname, failure, site, h.failed, hmessage, hending'⟩

end Runner

end Treewalk
