import Treewalk.Proofs.Conduct

/-!
# What hosts raise

A host that knows nothing of the program that calls it raises nothing that has a place: its routines
fail with mishaps, state a failure in words, or refuse a number of arguments.
`Treewalk.Bridge.IsUnplaced` says this of a bridge, together with the fact that a truth test, which
takes no arguments, is never refused for their number. Where the surroundings are like this, the
evaluator alone decides on the places in reports.

The bridges of this library have the property, since it holds of every act that hosts are made of
(`Treewalk.Act.Composed.isUnplaced`).
-/

namespace Treewalk

/-- Whether a fault is a wrong number of arguments. -/
def Fault.isArity : Fault → Bool
  | .raised cause _ => cause.isArity
  | .host _ => false

variable {V W α β : Type} {P : Fault → Prop}

/-! ### Computations -/

/-- **A question raises only** faults of some kind. -/
def Ask.RaisesOnly (P : Fault → Prop) (x : Ask W α) : Prop := ∀ w f w', x w = .error f w' → P f

namespace Ask

theorem raisesOnly_throw {f : Fault} (hf : P f) : RaisesOnly P (throw f : Ask W α) := by
  rintro w _ w' ⟨⟩
  exact hf

/-- One question after another raises what either of them does. -/
theorem RaisesOnly.bind {x : Ask W α} {f : α → Ask W β} (hx : RaisesOnly P x)
    (hf : ∀ a, RaisesOnly P (f a)) : RaisesOnly P (x >>= f) := by
  intro w fault w' h
  cases hxw : x w with
  | ok a w₁ =>
    rw [bind_of_ok hxw] at h
    exact hf a w₁ fault w' h
  | error g w₁ =>
    rw [bind_of_error hxw] at h
    cases h
    exact hx w _ _ hxw

end Ask

/-- What is read off the world ends in a mishap if it fails. -/
theorem Act.raisesOnly_read (hP : ∀ m, P (.host m)) (f : World → Except Mishap α) :
    Ask.RaisesOnly P (read f) := by
  intro w fault w' h
  change lift (f w) w = _ at h
  cases hf : f w with
  | ok a =>
    rw [hf] at h
    cases h
  | error m =>
    rw [hf] at h
    cases h
    exact hP m

/-- A text that is put out is refused with a mishap, if it is refused. -/
theorem Act.raisesOnly_put (hP : ∀ m, P (.host m)) (text : String) :
    Ask.RaisesOnly P (put text) := by
  intro w fault w' h
  cases htext : w.machine.refusal 0 text with
  | none =>
    rw [put_of_taken htext] at h
    cases h
  | some m =>
    rw [put_of_refused htext] at h
    cases h
    exact hP m

/-- **A question raises nothing that has a place.** -/
abbrev Ask.IsUnplaced (x : Ask W α) : Prop := RaisesOnly (fun f => f.isPositioned = false) x

/-- **Whatever a host does, it raises nothing that has a place.** -/
theorem Act.Composed.isUnplaced {x : Act α} (h : Composed x) : Ask.IsUnplaced x := by
  induction h with
  | bind _ _ ih ihs => exact ih.bind ihs
  | fail | refuse | state => exact Ask.raisesOnly_throw rfl
  | put text => exact raisesOnly_put (fun _ => rfl) text
  | pure | get | answer | object | store | takeLine | count | locate | annotate =>
    exact fun _ _ _ h => nomatch h

/-! ### Bridges -/

/-- **Surroundings that know nothing of places**: whatever they raise has none, and a truth test,
which takes no arguments, is never given a wrong number of them. -/
structure Bridge.IsUnplaced (b : Bridge V W) : Prop where
  has (target : V) (name : String) : Ask.IsUnplaced (b.has target name)
  invoke (activation : Activation) (target : V) (name : String) (args : List V) :
    Ask.IsUnplaced (b.invoke activation target name args)
  truthy (v : V) : Ask.RaisesOnly (fun f => f.isPositioned = false ∧ f.isArity = false) (b.truthy v)

theorem Bridge.IsComposed.isUnplaced {b : Bridge Value World} (hb : b.IsComposed) :
    b.IsUnplaced where
  has target name := (hb.has target name).isUnplaced
  invoke activation target name args := (hb.invoke activation target name args).isUnplaced
  truthy v := by
    obtain ⟨f, hf⟩ := hb.truthy v
    rw [hf]
    exact Act.raisesOnly_read (fun _ => ⟨rfl, rfl⟩) f

namespace Bridges

theorem reflective_isUnplaced : reflective.IsUnplaced := reflective_isComposed.isUnplaced

theorem nilFalse_isUnplaced : nilFalse.IsUnplaced := nilFalse_isComposed.isUnplaced

theorem table_isUnplaced : table.IsUnplaced := table_isComposed.isUnplaced

theorem hollow_isUnplaced : hollow.IsUnplaced := hollow_isComposed.isUnplaced

end Bridges

end Treewalk
