import Treewalk.Proofs.Record

/-!
# A higher ceiling

The depth of the stack is limited, and the limit is looked at in one place only: where a frame is
pushed. So an evaluation that never meets it does not depend on it. Let the same program run in two
fresh cores, of which the second has the higher limit, and let no push of the first run be blocked;
then the second run is the first one again, down to the frames that are left when it fails.

The limits differ all the time, while everything else is the same (`Treewalk.Core.Raised`); this is
a mirror (`Treewalk.Core.Likeness.mirror`) in which blocked pushes have no image.

* **`Treewalk.Program.eval_of_raised_limit`**: the two runs make the same moves and end alike.
-/

namespace Treewalk

open Treewalk.Core

variable {V W : Type}

/-- **A core with a higher limit**, and the same in everything else but the trace. -/
structure Core.Raised (c d : Core V W) : Prop where
  maxDepth_le : c.maxDepth ≤ d.maxDepth
  functions_eq : d.functions = c.functions
  frame_eq : d.frame = c.frame
  below_eq : d.below = c.below
  calls_eq : d.calls = c.calls
  current_eq : d.current = c.current
  world_eq : d.world = c.world

/-- The same surroundings give the same answers. -/
theorem Bridge.echoes_self (b : Bridge V W) : b.Echoes id Eq b := by
  have hself {α : Type} (r : EStateM.Result Fault W α) : Image id Eq r r := by
    cases r with
    | ok a w => exact .ok rfl
    | error f w => exact .error rfl
  refine ⟨rfl, fun _ => rfl, rfl, ?_, ?_, ?_, ?_⟩
  · rintro w _ s rfl
    exact ⟨rfl, rfl⟩
  · rintro w _ target name rfl
    exact hself _
  · rintro w _ activation target name args rfl
    rw [List.map_id]
    exact hself _
  · rintro w _ v rfl
    exact hself _

namespace Core

variable {c d : Core V W}

section Likeness

variable {L : Int → Int → Prop} {S : W → W → Prop}

/-! Where every value is its own image, the frames are the same. -/

theorem Likeness.frame_eq_self (h : Likeness id L S c d) : d.frame = c.frame :=
  h.frame_eq.trans (Frame.map_id _)

theorem Likeness.below_eq_self (h : Likeness id L S c d) : d.below = c.below := by
  have hid : Frame.map (id : V → V) = id := funext Frame.map_id
  rw [h.below_eq, hid, List.map_id]

end Likeness

/-- A bridge mirrors itself between cores that differ in nothing but their traces. -/
theorem Likeness.mirror_self (b : Bridge V W) : Mirror True id b b (Likeness id Eq Eq) :=
  Likeness.mirror b.echoes_self (fun _ _ h => Int.le_of_eq h) fun _ _ _ h => Int.le_of_eq h.symm

theorem Raised.of_likeness (h : Likeness id (· ≤ ·) Eq c d) : Raised c d where
  maxDepth_le := h.limit
  functions_eq := h.functions_eq
  frame_eq := h.frame_eq_self
  below_eq := h.below_eq_self
  calls_eq := h.calls_eq
  current_eq := h.current_eq
  world_eq := h.world.symm

theorem Likeness.fresh {d d' : Int} (hd : d ≤ d') (tracing : Tracing) (w : W) :
    Likeness id (· ≤ ·) Eq (fresh d tracing w : Core V W) (fresh d' tracing w) :=
  ⟨hd, rfl, rfl, rfl, rfl, rfl, rfl⟩

end Core

/-- The same moves in cores that differ only in their limits are the same invocations. -/
theorem invocations_eq_of_raised {ts ts' : List (Turn V W)}
    (h : List.Forall₂ (fun t t' => t.move = t'.move ∧ Raised t.core t'.core) ts ts') :
    invocations ts' = invocations ts :=
  invocations_eq_of_moves (h.imp fun _ _ ht => ⟨ht.1.symm, ht.2.world_eq⟩)

/-- **A higher limit changes nothing unless the lower one is met.** If no push is blocked while a
program is evaluated in a fresh core, then in a fresh core with a higher limit it is evaluated with
the same moves and, with any number of steps, to the same end: the same value or the same fault, and
a core that is the same in everything but its limit. In particular the invocations are the same. -/
theorem Program.eval_of_raised_limit (b : Bridge V W) (p : Program) (fuel : Nat)
    (tracing : Tracing) (w : W) {d d' : Int} (hd : d ≤ d')
    (hroom : ∀ t ∈ p.turns b fuel (Core.fresh d tracing w), ¬ t.IsBlocked) :
    Abreast Raised
        (p.turns b fuel (Core.fresh d tracing w)) (p.eval b fuel (Core.fresh d tracing w))
        (p.turns b fuel (Core.fresh d' tracing w)) (p.eval b fuel (Core.fresh d' tracing w)) ∧
      invocations (p.turns b fuel (Core.fresh d' tracing w)) =
        invocations (p.turns b fuel (Core.fresh d tracing w)) := by
  have hmirror : Mirror False id b b (Likeness id (· ≤ ·) Eq) :=
    Likeness.mirror b.echoes_self (fun _ _ h => h) fun h => h.elim
  obtain ⟨hturns, hresult⟩ :=
    hmirror.program fuel p (.fresh hd tracing w) fun t ht hblocked => hroom t ht hblocked
  have hmoves := hturns.imp fun t t' ht =>
    (⟨(ht.1.trans (Move.map_id _)).symm, .of_likeness ht.2⟩ :
      t.move = t'.move ∧ Raised t.core t'.core)
  exact ⟨⟨hmoves, (hresult.imp .of_likeness).alike⟩, invocations_eq_of_raised hmoves⟩

/-- A program that calls a function which calls another one. -/
def nesting : Program :=
  ⟨"-", [.define .nowhere "f" [] [.call .nowhere "len" [.string .nowhere "ab"]],
    .define .nowhere "g" ["x"] [.call .nowhere "f" []],
    .call .nowhere "g" [.literal .nowhere .nil]]⟩

theorem Program.eval_of_raised_limit_of_nesting :
    (∀ t ∈ nesting.turns Bridges.reflective 6 (Core.fresh 3 .off (World.start .standard "")),
      ¬ t.IsBlocked) ∧
    Alike Raised
      (nesting.eval Bridges.reflective 6 (Core.fresh 3 .off (World.start .standard "")))
      (nesting.eval Bridges.reflective 6 (Core.fresh 64 .off (World.start .standard ""))) := by
  have hroom : ∀ t ∈ nesting.turns Bridges.reflective 6
      (Core.fresh 3 .off (World.start .standard "")), ¬ t.IsBlocked := by decide +kernel
  exact ⟨hroom, (Program.eval_of_raised_limit Bridges.reflective nesting 6 .off _ (by decide)
    hroom).1.result⟩

end Treewalk
