import Treewalk.Host.Bridges
import Treewalk.Proofs.Rewording

/-!
# Other names for parameters

A parameter is known to the body of its function and to nothing else. So it may have another name,
if the body uses that name instead wherever it reads or binds the parameter. What must not be
changed are the calls of functions that happen to be named like the parameter, which look the name
up in the table of functions, and the definitions inside the body, which have frames of their own.

The new name must not be in use as a variable, or the two could become one. The surroundings never
see a frame, only what it is called and how deep it lies (`Treewalk.Activation`), so there is
nothing more to be asked of them.

* **`Treewalk.Runner.parameters_renamed`**: the law for runs of two programs, in one of which some
  definitions name a parameter otherwise.
-/

namespace Treewalk

open Treewalk.Core

variable {V W : Type}

/-- **A definition with another name for a parameter**: in the list of parameters, and in the nodes
of the body that read or bind variables of its frame. -/
inductive Node.RenamesParameter (p q : String) : Node → Node → Prop
  /-- In any definition that has the parameter. -/
  | in (place : Place) (name : String) (params : List String) (body : List Node) : p ∈ params →
      RenamesParameter p q (.define place name params body)
        (.define place name (params.map (Function.update id p q))
          (renamedAll (Function.update id p q) body))

/-- One name is spare, and none stands bare. -/
def Wording.ofSpare (name : String) : Wording :=
  ⟨{name}, ∅, fun _ hbare => absurd hbare (Set.notMem_empty _)⟩

/-- What uses other names only for variables leaves a name to spare. -/
theorem Wording.fits_ofSpare {name : String} {n : Node} (hbinds : name ∉ n.binds)
    (hreads : name ∉ n.reads) : (ofSpare name).Fits n where
  binds _ hother := ⟨fun heq => hbinds (Set.mem_singleton_iff.mp heq ▸ hother), Set.notMem_empty _⟩
  reads _ hother heq := hreads (Set.mem_singleton_iff.mp heq ▸ hother)

namespace Runner

variable (r : Runner V W) (tracing : Tracing) (fuel : Nat) (w : W)

/-- **Parameters can be renamed.** Let `q` be a name that no node of a program binds or reads as a
variable, and let some definitions of the program name their parameter `p` so instead. Then the
program runs as before, in any surroundings: it ends in the same way, with the same value or the
same report, it puts out the same, makes the same invocations, and leaves the same surroundings
behind. -/
theorem parameters_renamed {program program' : Program} {p q : String}
    (hq : ∀ n : Node, n.Occurs program.body → q ∉ n.binds ∧ q ∉ n.reads)
    (hrenamed :
      List.Forall₂ (Node.Rewritten (Node.RenamesParameter p q)) program.body program'.body) :
    let run := r.run tracing fuel (.program program) w
    let run' := r.run tracing fuel (.program program') w
    run'.ending = run.ending ∧ run'.effects = run.effects ∧ run'.world = run.world ∧
      invocations (r.turns tracing fuel (.program program') w) =
        invocations (r.turns tracing fuel (.program program) w) := by
  intro run run'
  have hfits (n : Node) (hn : n.Occurs program.body) : (Wording.ofSpare q).Fits n :=
    Wording.fits_ofSpare (hq n hn).1 (hq n hn).2
  have hvariants : Variants (Wording.ofSpare q) id program.body program'.body := by
    refine .of_rewritten hfits ?_ hrenamed
    rintro _ _ hn ⟨place, name, params, body, hp⟩
    exact .define (.update hp rfl) (hfits _ hn).binds rfl
      (.of_renamed fun m hm => .of_renamed hfits m (.child hn hm) _)
  obtain ⟨heffects, hworld, hinvocations, hends⟩ :=
    r.variants_run tracing fuel program program' w hvariants
  rcases hends with ⟨halike, -⟩ | ⟨_, hbare, -⟩
  · exact ⟨halike, heffects, hworld, hinvocations⟩
  · exact absurd hbare (Set.notMem_empty _)

/-- A function with a parameter, which it reads and binds, and a call of a function that is named
like the parameter. -/
def namesake (x : String) : Program :=
  ⟨"namesake", [
    .define .nowhere "x" [] [.string .nowhere "nobody"],
    .define .nowhere "f" [x] [
      .call .nowhere "x" [],
      .assign .nowhere x (.call .nowhere "len" [.var .nowhere x]),
      .var .nowhere x],
    .call .nowhere "f" [.string .nowhere "abc"]]⟩

theorem parameters_renamed_of_namesake :
    let r := Runner.mk Bridges.reflective "namesake" 64
    let w := World.start .standard ""
    let run := r.run .off 6 (.program (namesake "x")) w
    let run' := r.run .off 6 (.program (namesake "z")) w
    (∀ n : Node, n.Occurs (namesake "x").body → "z" ∉ n.binds ∧ "z" ∉ n.reads) ∧
      run'.ending = run.ending ∧ ∃ v, run.ending = .finished v := by
  intro r w run run'
  have hq : ∀ n : Node, n.Occurs (namesake "x").body → "z" ∉ n.binds ∧ "z" ∉ n.reads := by
    intro n hn
    simp only [namesake, Node.occurs_cons, Node.children, Node.parts, Node.not_occurs_nil,
      or_false, false_or] at hn
    rcases hn with rfl | rfl | rfl | (rfl | rfl | (rfl | rfl) | rfl) | rfl | rfl <;>
      simp [Node.binds, Node.reads]
  have hrenamed : List.Forall₂ (Node.Rewritten (Node.RenamesParameter "x" "z"))
      (namesake "x").body (namesake "z").body :=
    .cons (.same _) (.cons (.replaced (.in _ _ _ _ (by simp))) (.cons (.same _) .nil))
  obtain ⟨v, hv⟩ : ∃ v, value? run.ending = some v :=
    Option.isSome_iff_exists.mp (by decide +kernel)
  obtain ⟨hending, -⟩ := parameters_renamed r .off 6 w hq hrenamed
  exact ⟨hq, hending, v, eq_of_value?_eq_some hv⟩

end Runner

end Treewalk
