import Treewalk.Proofs.Shift.Template

/-!
# A host behind what was left

A value has the same capabilities behind what was left, and each of them echoes
(`Treewalk.Capability.Echoes`): its methods, the operators, and the routines of the standard
environment. So the bridge that looks at a standard host cannot tell what was left in it.

* **`Treewalk.Bridges.reflective_echoes`**: the bridge of a standard host does not see what was
  left.
-/

namespace Treewalk

open Act Capability

variable {s : Shift} {w : World}

/-! ### Routines -/

namespace Routine

theorem echoes_putAll : ∀ args : List Value, Echoes s (Value.shift s) (puts.putAll args)
    (puts.putAll (args.map (Value.shift s)))
  | [] => .pure Value.nil
  | v :: rest =>
    .bind (.readSame fun _ hw => World.spoken_shift hw.plain v) fun _ =>
      .bind (.put _) fun _ => echoes_putAll rest

theorem echoes_puts (args : List Value) :
    Echoes s (Value.shift s) (puts args) (puts (args.map (Value.shift s))) := by
  cases args with
  | nil => exact .bind (.put _) fun _ => .pure Value.nil
  | cons v rest => exact echoes_putAll (v :: rest)

theorem echoes_print (args : List Value) :
    Echoes s (Value.shift s) (print args) (print (args.map (Value.shift s))) :=
  .bind (.readSame fun _ hw => mapM_map_shift (World.spoken_shift hw.plain) args) fun _ =>
    .bind (.put _) fun _ => .pure Value.nil

theorem echoes_inspect (args : List Value) :
    Echoes s (Value.shift s) (inspect args) (inspect (args.map (Value.shift s))) := by
  unfold inspect
  rw [Value.headD_map_shift]
  exact .bind (.readSame fun _ hw => World.printed_shift hw.plain _) fun _ =>
    .bind (.put _) fun _ => .pure _

theorem echoes_gets (args : List Value) :
    Echoes s (Value.shift s) (gets args) (gets (args.map (Value.shift s))) := by
  refine .bind .takeLine fun line => ?_
  cases line with
  | nil => exact .pure Value.nil
  | cons c rest => exact .pure (Value.chars (c :: rest))

theorem echoes_fillTemplate (args : List Value) :
    Echoes s (Value.shift s) (fillTemplate args) (fillTemplate (args.map (Value.shift s))) := by
  induction args with
  | nil => exact .fail _
  | cons v rest ih =>
    -- what is no template is called by its type
    have hother : Echoes s (Value.shift s)
        (do Act.fail (.noProperty ((← get).typeName v) "format") : Act Value)
        (do Act.fail (.noProperty ((← get).typeName (v.shift s)) "format") : Act Value) := by
      refine .get fun w _ => ?_
      rw [World.typeName_shift]
      exact .fail _
    cases v with
    | str text fresh => exact Template.echoes_fillBraces (.str text fresh) text rest
    | environment => exact ih
    | _ => exact hother

theorem map_readInteger (t : List Char) (written : String) :
    (readInteger t written).map (Answer.shift s) = readInteger t written := by
  unfold readInteger
  split <;> rfl

theorem toInteger_shift (v : Value) :
    toInteger (w.shift s) (v.shift s) = (toInteger w v).map (Answer.shift s) := by
  have htype := World.typeName_shift (s := s) (w := w) v
  cases v with
  | float x stamp =>
    simp only [toInteger, Value.shift_float, Value.number?]
    split <;> rfl
  | str t fresh => exact (map_readInteger _ _).symm
  | bytes bs => exact (map_readInteger _ _).symm
  | ref a =>
    simp only [toInteger, Value.shift_ref, Value.number?] at htype ⊢
    rw [htype]
    rfl
  | _ => rfl

theorem map_readDouble (t : List Char) (written : String) :
    (readDouble t written).map (Answer.shift s) = readDouble t written := by
  unfold readDouble
  split <;> rfl

theorem toDouble_shift (v : Value) :
    toDouble (w.shift s) (v.shift s) = (toDouble w v).map (Answer.shift s) := by
  have htype := World.typeName_shift (s := s) (w := w) v
  cases v with
  | bool | int => exact bind_map fun _ => rfl
  | str t fresh => exact (map_readDouble _ _).symm
  | bytes bs => exact (map_readDouble _ _).symm
  | ref a =>
    simp only [toDouble, Value.shift_ref, Value.number?] at htype ⊢
    rw [htype]
    rfl
  | _ => rfl

theorem map_steps (start stop step : Int) :
    (steps start stop step).map (Answer.shift s) = steps start stop step := by
  unfold steps
  split
  · rfl
  · dsimp only
    split
    · rfl
    · simp [Except.map, pure, Except.pure, Function.comp_def]

theorem range_shift (args : List Value) :
    range (w.shift s) (args.map (Value.shift s)) = (range w args).map (Answer.shift s) := by
  unfold range
  rw [expectArguments_shift]
  refine bind_map fun _ => ?_
  have hsteps (start stop step : Int) := (map_steps (s := s) start stop step).symm
  rcases args with _ | ⟨v, _ | ⟨v₁, _ | ⟨v₂, rest⟩⟩⟩
  · rfl
  · simp only [List.map_cons, List.map_nil, World.integer_shift]
    exact bind_map fun _ => hsteps _ _ _
  · simp only [List.map_cons, List.map_nil, World.integer_shift]
    exact bind_map fun _ => bind_map fun _ => hsteps _ _ _
  · simp only [List.map_cons, World.integer_shift]
    exact bind_map fun _ => bind_map fun _ => bind_map fun _ => hsteps _ _ _

/-- **The routines of a standard environment do not see what was left.** -/
theorem echoes_standard : ∀ entry ∈ standard, Capability.Echoes s entry.2 entry.2 := by
  simp only [standard, List.forall_mem_cons]
  refine ⟨echoes_reading fun w args _ => ?_, echoes_acting echoes_fillTemplate,
    echoes_acting echoes_gets, echoes_reading fun w args _ => ?_,
    echoes_reading fun w args _ => ?_, echoes_reading fun _ _ _ => rfl,
    echoes_acting echoes_inspect, echoes_acting echoes_print, echoes_acting echoes_puts,
    echoes_reading fun w args _ => range_shift args, echoes_reading fun w args hw => ?_, by simp⟩
  · rw [Value.headD_map_shift]
    exact toDouble_shift _
  · rw [Value.headD_map_shift]
    exact toInteger_shift _
  · rw [Value.headD_map_shift, World.length_shift]
    exact bind_map fun _ => rfl
  · rw [Value.headD_map_shift, World.spoken_shift hw.plain]
    exact bind_map fun _ => rfl

end Routine

/-! ### The bridge -/

namespace Bridges

theorem routine?_echoes (hw : w.IsStandard) (name : String) :
    Option.Rel (Capability.Echoes s) (reflection.routine? w name)
      (reflection.routine? (w.shift s) name) := by
  -- nothing was registered, so that only the routines of the setting are left
  have hregistered : w.registered? name = none := by
    simp [World.registered?, hw.registered_eq]
  have hregistered' : (w.shift s).registered? name = none := hregistered
  have hmarked : w.marked? name = Routine.standard.lookup name := by
    rw [World.marked?, hw.setting_eq]
    rfl
  have hmarked' : (w.shift s).marked? name = Routine.standard.lookup name := hmarked
  simp only [Reflection.routine?, reflection, hregistered, hregistered', hmarked, hmarked',
    Option.none_or]
  cases hroutine : Routine.standard.lookup name with
  | none => exact .none
  | some c => exact .some (Routine.echoes_standard _ (mem_of_lookup_eq_some hroutine))

theorem valueCapability?_echoes (hw : w.IsStandard) (v : Value) (name : String) :
    Option.Rel (Capability.Echoes s) (reflection.valueCapability? w v name)
      (reflection.valueCapability? (w.shift s) (v.shift s) name) := by
  have hsuits : reflection.suits (w.shift s) (v.shift s) = reflection.suits w v :=
    funext fun op => op.suits_shift v
  have hoperator (op : Operator) :
      Capability.Echoes s (op.capability v) (op.capability (v.shift s)) :=
    echoes_reading fun _ args hw => op.apply_shift hw.plain v args
  -- operators that suit a value come first, then its methods, then the operators of all values
  unfold Reflection.valueCapability?
  rw [hsuits]
  dsimp only
  cases (Operator.ofName? name).filter (reflection.suits w v) with
  | some op => exact .some (hoperator op)
  | none =>
    dsimp only
    split
    · exact .none
    · have hmethod := World.method?_echoes (s := s) hw.plain v name
      change Option.Rel _ (reflection.method? w v name)
        (reflection.method? (w.shift s) (v.shift s) name) at hmethod
      generalize reflection.method? w v name = method at hmethod
      generalize reflection.method? (w.shift s) (v.shift s) name = method' at hmethod
      cases hmethod with
      | some hc => exact .some hc
      | none =>
        cases (Operator.ofName? name).filter Operator.isUniversal with
        | some op => exact .some (hoperator op)
        | none => exact .none

/-- **Values have the same capabilities behind what was left.** -/
theorem capability?_echoes (hw : w.IsStandard) (target : Value) (name : String) :
    Option.Rel (Capability.Echoes s) (reflection.capability? w target name)
      (reflection.capability? (w.shift s) (target.shift s) name) := by
  cases target with
  | environment => exact routine?_echoes hw name
  | _ => exact valueCapability?_echoes hw _ name

/-- **The bridge of a standard host does not see what was left.** -/
theorem reflective_echoes (s : Shift) :
    reflective.Echoes (Value.shift s) (Shifted s) reflective where
  nil_eq := rfl
  literal_eq l := l.toValue_shift.symm
  environment_eq := rfl
  text t h := by
    obtain ⟨hw, rfl⟩ := h
    exact ⟨rfl, hw.inHeap hw.plain, rfl⟩
  has target name h := by
    obtain ⟨hw, rfl⟩ := h
    refine Echoes.get (fun w hw => ?_) _ hw
    have hc := capability?_echoes (s := s) hw target name
    generalize reflection.capability? w target name = c at hc
    generalize reflection.capability? (w.shift s) (target.shift s) name = c' at hc
    cases hc with
    | some _ => exact .pure true
    | none => exact .pure false
  invoke activation target name args h := by
    obtain ⟨hw, rfl⟩ := h
    refine Echoes.get (fun w hw => ?_) _ hw
    have hc := capability?_echoes (s := s) hw target name
    have htype : reflection.typeName (w.shift s) (target.shift s) = reflection.typeName w target :=
      World.typeName_shift target
    rw [htype]
    generalize reflection.capability? w target name = c at hc
    generalize reflection.capability? (w.shift s) (target.shift s) name = c' at hc
    cases hc with
    | some hc => exact hc.invoke activation name args
    | none => exact .fail _
  truthy v h := by
    obtain ⟨hw, rfl⟩ := h
    exact Echoes.readSame (fun w _ => World.truthy_shift v) _ hw

end Bridges

end Treewalk
