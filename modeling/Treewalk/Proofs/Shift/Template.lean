import Treewalk.Proofs.Shift.Method

/-!
# Templates behind what was left

A template with braces is filled by looking at its arguments, and at what is known of them: their
items, the parts of numbers, the names of their methods and classes, the texts of values. None of
this tells a world from its shift. What the machine knows is not moved by a shift, so that it
answers alike as well: where things lie, and whether the class of literals' texts is annotated.

* **`Treewalk.Template.echoes_fillBraces`**: a template is filled alike.
-/

namespace Treewalk

open Act

variable {s : Shift} {w : World}

/-! ### Attributes -/

namespace World

/-- The attributes of a value that are values are moved up with it. -/
@[simp] theorem property?_shift (v : Value) (name : String) :
    (w.shift s).property? (v.shift s) name = (w.property? v name).map (Value.shift s) := by
  cases v with
  | bool b | int n =>
    simp only [property?, Value.shift_bool, Value.shift_int, Value.number?]
    split <;> rfl
  | float x stamp =>
    simp only [property?, Value.shift_float, Value.number?]
    split <;> rfl
  | ref a =>
    simp only [property?, Value.shift_ref, Value.number?, heap_shift, Heap.cell?_shift]
    cases w.heap.cell? a with
    | none => rfl
    | some c =>
      cases c with
      | counter | vector =>
        simp only [Option.map_some, Cell.shift]
        split <;> simp_all
      | _ => rfl
  | _ => rfl

/-- A value has methods of the same names. -/
theorem hasMethod_shift (hw : w.heap.IsPlain) (v : Value) (name : String) :
    (w.shift s).hasMethod (v.shift s) name = w.hasMethod v name := by
  have hplain : ((w.shift s).plainMethod? (v.shift s) name).isSome =
      (w.plainMethod? v name).isSome := by
    have hmethod := plainMethod?_echoes (s := s) hw v name
    generalize w.plainMethod? v name = method at hmethod
    generalize (w.shift s).plainMethod? (v.shift s) name = method' at hmethod
    cases hmethod <;> rfl
  have hsequence : ((w.shift s).sequence? (v.shift s)).isSome = (w.sequence? v).isSome := by
    rw [sequence?_shift, Option.isSome_map]
  unfold hasMethod
  rw [hplain]
  cases v with
  | str text fresh => rfl
  | _ => exact congrArg (fun known => _ || (name == "index" && known)) hsequence

/-- A value is of the same class. -/
@[simp] theorem className?_shift (v : Value) :
    (w.shift s).className? (v.shift s) = w.className? v := by
  have htype := typeName_shift (s := s) (w := w) v
  cases v with
  | environment => rfl
  | ref a =>
    simp only [className?, Value.shift_ref, heap_shift, Heap.cell?_shift] at htype ⊢
    rw [htype]
    cases w.heap.cell? a with
    | none => rfl
    | some c => cases c <;> rfl
  | _ => exact congrArg some htype

end World

namespace Template

namespace Referent

/-- What a field came upon, behind what was left. -/
def shift (s : Shift) : Referent → Referent
  | .value v => .value (v.shift s)
  | r => r

@[simp] theorem typeName_shift (r : Referent) :
    (r.shift s).typeName (w.shift s) = r.typeName w := by
  cases r with
  | value v => exact World.typeName_shift v
  | _ => rfl

theorem shown_shift (hw : w.heap.IsPlain) (r : Referent) :
    (r.shift s).shown (w.shift s) = r.shown w := by
  cases r with
  | value v => exact World.shown_shift hw v
  | _ => rfl

theorem display_shift (hw : w.heap.IsPlain) (r : Referent) :
    (r.shift s).display (w.shift s) = r.display w := by
  cases r with
  | value v => exact World.display_shift hw v
  | _ => rfl

end Referent

/-- The text of a method is the same, since the same address is found out for its owner. -/
theorem echoes_methodOf (v : Value) (name : String) :
    Echoes s (Referent.shift s) (methodOf v name) (methodOf (v.shift s) name) := by
  refine .get fun w hw => ?_
  rw [World.className?_shift, World.shown_shift hw.plain, World.typeName_shift]
  cases w.className? v with
  | some typeName => exact .bind .locate fun address => .pure (Referent.method _ _)
  | none => exact .bind (.liftSame _) fun owner => .pure (Referent.method _ _)

theorem echoes_privateOf (v : Value) (name : String) :
    Echoes s (Referent.shift s) (privateOf v name) (privateOf (v.shift s) name) := by
  refine .get fun w _ => ?_
  have hmachine : (w.shift s).machine = w.machine := rfl
  rw [World.className?_shift, World.typeName_shift, hmachine]
  cases w.className? v with
  | some typeName =>
    exact .ite (.pure (Referent.kind typeName)) (.ite (.pure Referent.annotations) (.fail _))
  | none => exact .fail _

/-- **An attribute is the same one**, or moved up with the value. -/
theorem echoes_attributeOf (r : Referent) (name : String) :
    Echoes s (Referent.shift s) (attributeOf r name) (attributeOf (r.shift s) name) := by
  refine .get fun w hw => ?_
  cases r with
  | value v =>
    simp only [Referent.shift, World.property?_shift, World.hasMethod_shift hw.plain]
    cases w.property? v name with
    | some x => exact .pure (Referent.value x)
    | none => exact .ite (echoes_methodOf v name) (echoes_privateOf v name)
  | kind typeName =>
    exact .ite (.bind .annotate fun _ => .pure Referent.annotations) (.fail _)
  | method | annotations => exact .fail _

/-- An item under a key that is moved up. -/
theorem itemOf_shift (hw : w.heap.IsPlain) (key : Value) (r : Referent) :
    itemOf (w.shift s) (key.shift s) (r.shift s) = (itemOf w key r).map (Referent.shift s) := by
  cases r with
  | value v =>
    refine bind_eq_map_bind (Operator.itemOf_shift hw v key) fun a => ?_
    cases a <;> rfl
  | annotations => exact congrArg Except.error (World.missingKey_shift hw key)
  | _ => rfl

/-! ### Fields -/

/-- A step behind what was left. -/
def Step.shift (s : Shift) : Step → Step
  | .property name => .property name
  | .item key => .item (key.shift s)

/-- The key of an item is a number, or a text that no literal made, and is not moved. -/
theorem map_takeStep (name : List Char) :
    (takeStep name).map (fun taken => (taken.1.shift s, taken.2)) = takeStep name := by
  unfold takeStep
  split
  · dsimp only
    split <;> rfl
  · dsimp only
    split
    · rfl
    · refine (bind_map fun index => ?_).symm
      split
      · rfl
      · cases index <;> rfl
  · rfl

theorem Step.echoes_go (step : Step) (r : Referent) :
    Echoes s (Referent.shift s) (step.go r) ((step.shift s).go (r.shift s)) := by
  cases step with
  | property name => exact echoes_attributeOf r name
  | item key => exact .read fun w hw => itemOf_shift hw.plain key r

/-- **What a field comes upon** is the same, or moved up. -/
theorem echoes_follow (fuel : Nat) (r : Referent) (name : List Char) :
    Echoes s (Referent.shift s) (follow fuel r name) (follow fuel (r.shift s) name) := by
  fun_induction follow fuel r name with
  | case1 r name => exact .pure r
  | case2 fuel r hfuel =>
    rw [follow.eq_2 _ _ hfuel]
    exact .pure r
  | case3 fuel r name hname ih =>
    rw [follow.eq_3 _ _ _ hname]
    exact .bind (.lift (map_takeStep name).symm) fun (step, rest) =>
      .bind (step.echoes_go r) fun r => ih rest r

theorem argumentOf_shift (args : List Value) (name : List Char) (numbering : Numbering) :
    argumentOf (args.map (Value.shift s)) name numbering =
      (argumentOf args name numbering).map fun r => (r.1.shift s, r.2) := by
  have hposition (n : Nat) : argumentOf.positional (args.map (Value.shift s)) n =
      (argumentOf.positional args n).map (Value.shift s) := by
    unfold argumentOf.positional
    rw [List.getElem?_map]
    cases args[n]? <;> rfl
  unfold argumentOf
  refine bind_map fun index => ?_
  split
  · cases numbering with
    | manual => rfl
    | undecided => exact bind_eq_map_bind (hposition 0) fun _ => rfl
    | automatic n => exact bind_eq_map_bind (hposition n) fun _ => rfl
  · cases index with
    | none => rfl
    | some n =>
      cases numbering with
      | automatic => rfl
      | undecided | manual => exact bind_eq_map_bind (hposition n) fun _ => rfl

theorem converted_shift (hw : w.heap.IsPlain) (r : Referent) (conversion : Option Char) :
    converted (w.shift s) (r.shift s) conversion =
      (converted w r conversion).map (Referent.shift s) := by
  unfold converted
  rw [Referent.shown_shift hw, Referent.display_shift hw]
  split
  · rfl
  · exact bind_map fun _ => rfl
  · exact bind_map fun _ => rfl
  · exact bind_map fun _ => rfl
  · split <;> rfl

theorem written_shift (hw : w.heap.IsPlain) (r : Referent) (spec : List Char) :
    written (w.shift s) (r.shift s) spec = written w r spec := by
  cases r with
  | value v => exact formatted_shift hw v spec
  | _ => rfl

theorem echoes_referentOf (args : List Value) (field : Field) (numbering : Numbering) :
    Echoes s (fun named => (named.1.shift s, named.2)) (referentOf args field numbering)
      (referentOf (args.map (Value.shift s)) field numbering) :=
  .bind (.lift (argumentOf_shift args _ numbering)) fun (arg, numbering) =>
    .bind (echoes_follow _ (.value arg) _) fun r =>
      .bind (.read fun _ hw => converted_shift hw.plain r field.conversion) fun r =>
        .pure (r, numbering)

/-! ### Templates -/

/-- **The fields of a template are filled** with the same texts. -/
theorem echoes_fill (args : List Value) (fuel depth : Nat) (numbering : Numbering)
    (text : List Char) : Echoes s id (fill args fuel depth numbering text)
      (fill (args.map (Value.shift s)) fuel depth numbering text) := by
  fun_induction fill args fuel depth numbering text with
  | case1 depth numbering text => exact .pure ([], numbering)
  | case2 fuel numbering text hfuel =>
    rw [fill.eq_2 _ _ _ _ hfuel]
    exact .fail _
  | case3 fuel depth numbering hfuel hdepth =>
    rw [fill.eq_3 _ _ _ _ hfuel hdepth]
    exact .pure ([], numbering)
  | case4 fuel depth numbering c rest ih ihSpec ihRest =>
    rw [fill.eq_4]
    refine .bind (.liftSame _) fun (piece, rest) => ?_
    cases piece with
    | plain c => exact .bind (ih rest) fun (filled, numbering) => .pure (c :: filled, numbering)
    | field field =>
      refine .bind (echoes_referentOf args field numbering) fun (r, numbering) => ?_
      refine .bind (.ite (ihSpec field numbering) (.pure (field.spec, numbering)))
        fun (spec, _) => ?_
      refine .bind (.readSame fun _ hw => written_shift hw.plain r spec) fun filled => ?_
      exact .bind (ihRest rest _) fun (more, numbering) => .pure (filled ++ more, numbering)

/-- **A template is filled alike behind what was left.** -/
theorem echoes_fillBraces (template : Value) (text : String) (args : List Value) :
    Echoes s (Value.shift s) (fillBraces template text args)
      (fillBraces (template.shift s) text (args.map (Value.shift s))) :=
  .bind (echoes_fill args _ _ _ _) fun (filled, _) =>
    .ite (.answer (.chars filled)) (.pure template)

end Template

/-- **The methods of a value do not see what was left.** -/
theorem World.method?_echoes (hw : w.heap.IsPlain) (v : Value) (name : String) :
    Option.Rel (Capability.Echoes s) (w.method? v name) ((w.shift s).method? (v.shift s) name) := by
  have hplain := plainMethod?_echoes (s := s) hw v name
  cases v with
  | str text fresh =>
    simp only [method?, Value.shift_str]
    split
    · exact .some (Capability.echoes_acting (Template.echoes_fillBraces (.str text fresh) text))
    · exact hplain
  | _ => exact hplain

end Treewalk
