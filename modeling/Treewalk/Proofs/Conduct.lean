import Treewalk.Host.Bridges

/-!
# What hosts do

Routines and capabilities are computations over a world, and they are made of a handful of acts:
they look at the world, make values, change cells, put out texts, take in lines, look into memory,
count, and fail without saying where. `Treewalk.Act.Composed` is the inductive predicate of what can
be made of these. Every routine, every capability of a value and every bridge of this library is
composed (`Treewalk.Bridges.reflective_isComposed` and its siblings). So whatever is kept by each of
the acts is kept by a host, and is shown by induction on how an act is composed, without opening the
routines again.

The methods of a list do less than that: they change no cell but that of the list. So they are gone
through once for any property that is kept by so little (`Treewalk.Act.KeptByLists`), and being
composed is one such property.
-/

namespace Treewalk

variable {α β : Type}

/-! ### Computations -/

/-- **An act is composed** of what hosts can do. -/
inductive Act.Composed : {α : Type} → Act α → Prop
  /-- Nothing is done. -/
  | pure {α : Type} (a : α) : Composed (pure a)
  /-- One act follows another. -/
  | bind {α β : Type} {x : Act α} {f : α → Act β} :
      Composed x → (∀ a, Composed (f a)) → Composed (x >>= f)
  /-- The world is looked at. -/
  | get : Composed (get : Act World)
  /-- A mishap. -/
  | fail {α : Type} (m : Mishap) : Composed (Act.fail m : Act α)
  /-- A number of arguments is refused. -/
  | refuse {α : Type} (name : String) (got : Int) (want : Want) :
      Composed (throw (.raised (.arity name got want) .nowhere) : Act α)
  /-- A failure of the program is stated. -/
  | state {α : Type} (message : Picture) :
      Composed (throw (.raised (.stated message) .nowhere) : Act α)
  /-- A value is made. -/
  | answer (a : Answer) : Composed (Act.answer a)
  /-- An object is made. -/
  | object (c : Cell) : Composed (Act.object c)
  /-- A cell is changed. -/
  | store (a : Nat) (c : Cell) : Composed (Act.store a c)
  /-- A text is put out. -/
  | put (text : String) : Composed (Act.put text)
  /-- A line is taken in. -/
  | takeLine : Composed Act.takeLine
  /-- It is found out where something lies in memory. -/
  | locate : Composed Act.locate
  /-- The class of literals' texts gets its annotations. -/
  | annotate : Composed Act.annotate
  /-- A tick is counted. -/
  | count : Composed (modify fun w => { w with ticks := w.ticks + 1 } : Act PUnit)

/-- **What is kept**: a property of acts that holds of looking at the world, of failing and of
making values, and of one act after another. -/
structure Act.Kept (P : {α : Type} → Act α → Prop) : Prop where
  pure {α : Type} (v : α) : P (pure v : Act α)
  bind {α β : Type} {x : Act α} {f : α → Act β} : P x → (∀ v, P (f v)) → P (x >>= f)
  get : P (get : Act World)
  fail {α : Type} (m : Mishap) : P (Act.fail m : Act α)
  answer (reply : Answer) : P (Act.answer reply)

/-- **What is kept by lists**, of the list in a cell: it also holds of changing that list. -/
structure Act.KeptByLists (a : Nat) (P : {α : Type} → Act α → Prop) : Prop extends Act.Kept P where
  store (items : List Value) : P (Act.store a (.list items))

namespace Act.Kept

variable {P : {α : Type} → Act α → Prop}

theorem ite (_ : Kept P) {p : Prop} [Decidable p] {x y : Act α} (hx : P x) (hy : P y) :
    P (if p then x else y) := by
  split
  · exact hx
  · exact hy

theorem lift (h : Kept P) (x : Except Mishap α) : P (Act.lift x) := by
  cases x with
  | ok v => exact h.pure v
  | error m => exact h.fail m

theorem read (h : Kept P) (f : World → Except Mishap α) : P (Act.read f) :=
  h.bind h.get fun w => h.lift (f w)

theorem respond (h : Kept P) (f : World → Except Mishap Answer) : P (Act.respond f) :=
  h.bind (h.read f) h.answer

end Act.Kept

namespace Act.Composed

theorem kept : Kept Composed := ⟨.pure, .bind, .get, .fail, .answer⟩

theorem keptByLists (a : Nat) : KeptByLists a Composed := ⟨kept, fun _ => .store a _⟩

theorem ite {p : Prop} [Decidable p] {x y : Act α} (hx : Composed x) (hy : Composed y) :
    Composed (if p then x else y) :=
  kept.ite hx hy

theorem lift (x : Except Mishap α) : Composed (Act.lift x) := kept.lift x

theorem read (f : World → Except Mishap α) : Composed (Act.read f) := kept.read f

theorem respond (f : World → Except Mishap Answer) : Composed (Act.respond f) := kept.respond f

/-- A cell is changed and a value is given. -/
theorem stored (a : Nat) (c : Cell) (v : α) : Composed (do
    Act.store a c
    return v) :=
  .bind (.store a c) fun _ => .pure v

end Act.Composed

open Act

/-! ### Capabilities of values -/

theorem mem_of_lookup_eq_some {l : List (String × α)} {name : String} {a : α}
    (h : l.lookup name = some a) : (name, a) ∈ l := by
  obtain ⟨l₁, l₂, rfl, -⟩ := List.lookup_eq_some_iff.mp h
  simp

namespace Capability

/-- A capability is composed of what hosts can do. -/
def IsComposed (c : Capability) : Prop := ∀ activation args, Composed (c.run activation args)

theorem isComposed_acting {signature : Option Signature} {f : List Value → Act Value}
    (hf : ∀ args, Composed (f args)) : (acting signature f).IsComposed :=
  fun _ args => hf args

theorem isComposed_reading (signature : Option Signature)
    (f : World → List Value → Except Mishap Answer) : (reading signature f).IsComposed :=
  isComposed_acting fun args => .respond fun w => f w args

theorem isComposed_closed (signature : Option Signature) : (closed signature).IsComposed :=
  isComposed_acting fun _ => .fail _

/-- So is an invocation, which checks the number of arguments first. -/
theorem IsComposed.invoke {c : Capability} (hc : c.IsComposed) (activation : Activation)
    (name : String) (args : List Value) : Composed (c.invoke activation name args) := by
  unfold Capability.invoke
  cases c.signature with
  | none => exact hc activation args
  | some s =>
    simp only [Signature.check]
    by_cases hs : s.accepts args.length
    · rw [if_pos hs]
      exact hc activation args
    · rw [if_neg hs]
      exact .refuse name args.length s.want

end Capability

namespace ListMethod

variable {a : Nat} {P : {α : Type} → Act α → Prop} (h : KeptByLists a P) (items args : List Value)

include h

/-- A list whose cell is changed is replied with nothing, or with what was taken out. -/
theorem kept_stored {α : Type} (v : α) : P (do
    Act.store a (.list items)
    return v) :=
  h.bind (h.store items) fun _ => h.pure v

theorem kept_become : P (become a items) := kept_stored h items Value.nil

theorem kept_count : P (count a items args) := h.bind h.get fun _ => h.pure _

/-- An item is taken out of the list at a place that is in it, or nothing is changed. -/
theorem kept_popAt (i : Int) : P (popAt a items i) := by
  refine h.ite (h.fail _) (h.ite (h.fail _) ?_)
  split
  · exact h.fail _
  · exact kept_stored h _ _

theorem kept_pop : P (pop a items args) := by
  cases args with
  | nil => exact kept_popAt h items _
  | cons v _ => exact h.bind (h.read _) (kept_popAt h items)

/-- The first item that is alike is removed; there has to be one. -/
theorem kept_remove : P (remove a items args) := by
  refine h.bind h.get fun w => ?_
  split
  · exact kept_become h _
  · exact h.fail _

/-- A list is sorted in place, unless two of its items cannot be compared. -/
theorem kept_sort : P (sort a items args) := by
  refine h.bind h.get fun w => ?_
  dsimp only
  refine h.bind (h.store _) fun _ => ?_
  split
  · exact h.fail _
  · exact h.pure _

/-- **What is kept by lists holds of all their methods.** -/
theorem kept_table : ∀ entry ∈ table, P (entry.2.2 a items args) := by
  simp only [table, List.forall_mem_cons]
  refine ⟨kept_become h _, kept_become h _, h.answer _, kept_count h items args, ?_, ?_,
    kept_pop h items args, kept_remove h items args, kept_become h _, kept_sort h items args,
    by simp⟩
  · exact h.bind (h.read _) fun _ => kept_become h _
  · exact h.bind (h.read _) fun _ => kept_become h _

end ListMethod

namespace DictMethod

/-- An entry is put into a dictionary only where there is none. -/
theorem composed_setDefault (v : Value) (a : Nat) (entries : Entries) (args : List Value) :
    Composed (setDefault v a entries args) := by
  refine .bind (.read _) fun _ => .bind .get fun w => ?_
  split
  · exact .pure _
  · exact .stored a _ _

theorem composed_pop (v : Value) (a : Nat) (entries : Entries) (args : List Value) :
    Composed (pop v a entries args) := by
  refine .bind (.lift _) fun _ => .ite
    (.bind (.read _) fun _ => .bind .get fun w => ?_) (.bind .get fun w => ?_)
  all_goals
    split
    · exact .stored a _ _
    · exact .pure _
    · exact .fail _

theorem composed_popItem (v : Value) (a : Nat) (entries : Entries) (args : List Value) :
    Composed (popItem v a entries args) := by
  unfold popItem
  split
  · exact .fail _
  · exact .bind (.store a _) fun _ => .answer _

/-- Entries are put into a dictionary one by one, and what was put stays if a later one fails. -/
theorem composed_putPairs (a : Nat) : ∀ (items : List Value) (index : Nat) (entries : Entries),
    Composed (putPairs a index entries items)
  | [], _, _ => .pure _
  | _ :: rest, i, _ =>
    .bind (.read _) fun _ => .bind .get fun _ =>
      .bind (.store a _) fun _ => composed_putPairs a rest (i + 1) _

/-- They are those of another dictionary, or pairs in a sequence. -/
theorem composed_update (v : Value) (a : Nat) (entries : Entries) (args : List Value) :
    Composed (update v a entries args) := by
  refine .bind (.lift _) fun _ => ?_
  cases args with
  | nil => exact .pure _
  | cons other _ =>
    refine .bind .get fun w => ?_
    split
    · exact .stored a _ _
    · exact .bind (.lift _) fun items =>
        .bind (composed_putPairs a items 0 entries) fun _ => .pure _

theorem composed_table (v : Value) (a : Nat) (entries : Entries) (args : List Value) :
    ∀ entry ∈ table, Composed (entry.2.2 v a entries args) := by
  simp only [table, List.forall_mem_cons]
  refine ⟨.read _, composed_setDefault v a entries args, composed_popItem v a entries args,
    composed_pop v a entries args, ?_, ?_, composed_update v a entries args, ?_, by simp⟩
  · exact .bind (.read _) fun _ => .stored a _ _
  · exact .bind (.read _) fun _ => .answer _
  · exact .bind (.read _) fun _ => .answer _

end DictMethod

theorem composed_increased (v more : Value) : Composed (increased v more) := by
  refine .bind .get fun w => ?_
  split
  · exact .bind (.lift _) fun _ => .stored _ _ _
  · exact .ite (.respond _) (.fail _)

/-- A counter changes its own cell. -/
theorem composed_bump (a : Nat) (count : Value) (args : List Value) :
    Composed (bump a count args) :=
  .bind (composed_increased _ _) fun _ => .stored _ _ _

theorem composed_vectorSum (x : Value) (args : List Value) : Composed (vectorSum x args) :=
  .bind (.read _) fun _ => .bind (.respond _) fun _ => .object _

open Capability in
/-- The methods of all values are composed, apart from the filling of templates. -/
theorem World.isComposed_plainMethod {w : World} {v : Value} {name : String} {c : Capability}
    (h : w.plainMethod? v name = some c) : c.IsComposed := by
  have hint {v : Value} {n : Int} (h : intMethod? v n name = some c) : c.IsComposed := by
    unfold intMethod? at h
    split at h <;> cases h <;> exact isComposed_reading _ _
  cases v with
  | nil => cases h
  | environment => cases h
  | bool b => exact hint h
  | int n => exact hint h
  | float x mark =>
    simp only [plainMethod?, floatMethod?] at h
    split at h <;> cases h <;> exact isComposed_reading _ _
  | str s fresh =>
    simp only [plainMethod?, textMethod?] at h
    split at h
    · cases h
      exact isComposed_closed _
    split at h
    · cases h
      exact isComposed_closed _
    · obtain ⟨entry, -, rfl⟩ := Option.map_eq_some_iff.mp h
      exact isComposed_reading _ _
  | bytes bs =>
    obtain ⟨entry, -, rfl⟩ := Option.map_eq_some_iff.mp h
    exact isComposed_reading _ _
  | ref a =>
    simp only [plainMethod?] at h
    split at h
    · obtain ⟨entry, hentry, rfl⟩ := Option.map_eq_some_iff.mp h
      exact isComposed_acting fun args =>
        ListMethod.kept_table (Composed.keptByLists a) _ args _ (mem_of_lookup_eq_some hentry)
    · simp only [tupleMethod?] at h
      split at h <;> cases h
      exact isComposed_acting fun args => ListMethod.kept_count (Composed.keptByLists 0) _ args
    · simp only [dictMethod?] at h
      split at h
      · cases h
        exact isComposed_closed _
      · obtain ⟨entry, hentry, rfl⟩ := Option.map_eq_some_iff.mp h
        exact isComposed_acting fun args =>
          DictMethod.composed_table _ a _ args _ (mem_of_lookup_eq_some hentry)
    · simp only [counterMethod?] at h
      split at h <;> cases h
      exact isComposed_acting fun args => composed_bump a _ args
    · unfold vectorMethod? at h
      split at h <;> cases h
      · exact isComposed_acting fun args => composed_vectorSum _ args
      · exact isComposed_reading _ _
      · exact isComposed_reading _ _
    · cases h
    · cases h

/-! ### Templates -/

namespace Template

/-- The text of a method shows where its owner lies. -/
theorem composed_methodOf (v : Value) (name : String) : Composed (methodOf v name) := by
  refine .bind .get fun w => ?_
  split
  · exact .bind .locate fun _ => .pure _
  · exact .bind (.lift _) fun _ => .pure _

theorem composed_privateOf (v : Value) (name : String) : Composed (privateOf v name) := by
  refine .bind .get fun w => ?_
  split
  · exact .ite (.pure _) (.ite (.pure _) (.fail _))
  · exact .fail _

/-- To look for an attribute may make annotations. -/
theorem composed_attributeOf (r : Referent) (name : String) : Composed (attributeOf r name) := by
  refine .bind .get fun w => ?_
  split
  · split
    · exact .pure _
    · exact .ite (composed_methodOf _ name) (composed_privateOf _ name)
  · exact .ite (.bind .annotate fun _ => .pure _) (.fail _)
  · exact .fail _

/-- To follow the name of a field is to look at one thing after another. -/
theorem composed_follow (fuel : Nat) (r : Referent) (name : List Char) :
    Composed (follow fuel r name) := by
  fun_induction follow fuel r name with
  | case1 | case2 => exact .pure _
  | case3 fuel r name _ ih =>
    refine .bind (.lift _) fun (step, rest) => .bind ?_ fun r => ih rest r
    cases step with
    | property name => exact composed_attributeOf r name
    | item key => exact .read _

theorem composed_referentOf (args : List Value) (field : Field) (numbering : Numbering) :
    Composed (referentOf args field numbering) :=
  .bind (.lift _) fun _ => .bind (composed_follow _ _ _) fun _ => .bind (.read _) fun _ => .pure _

/-- **A template is filled** by looking at its arguments. -/
theorem composed_fill (args : List Value) (fuel depth : Nat) (numbering : Numbering)
    (text : List Char) : Composed (fill args fuel depth numbering text) := by
  fun_induction fill args fuel depth numbering text with
  | case1 | case3 => exact .pure _
  | case2 => exact .fail _
  | case4 fuel depth numbering c rest ih ihSpec ihRest =>
    refine .bind (.lift _) fun (piece, rest) => ?_
    cases piece with
    | plain c => exact .bind (ih rest) fun _ => .pure _
    | field field =>
      refine .bind (composed_referentOf args field numbering) fun (r, numbering) => ?_
      refine .bind (.ite (ihSpec field numbering) (.pure _)) fun (spec, numbering) => ?_
      exact .bind (.read _) fun text => .bind (ihRest rest numbering) fun _ => .pure _

/-- A template is filled from the left, and each field may look into memory. -/
theorem composed_fillBraces (template : Value) (text : String) (args : List Value) :
    Composed (fillBraces template text args) :=
  .bind (composed_fill _ _ _ _ _) fun _ => .ite (.answer _) (.pure _)

end Template

open Capability in
/-- **The methods of all values are composed.** -/
theorem World.isComposed_method {w : World} {v : Value} {name : String} {c : Capability}
    (h : w.method? v name = some c) : c.IsComposed := by
  unfold method? at h
  split at h
  · split at h
    · cases h
      exact isComposed_acting (Template.composed_fillBraces _ _)
    · exact isComposed_plainMethod h
  · exact isComposed_plainMethod h

/-! ### Routines -/

namespace Routine

/-- Texts are put out one after another, up to the first that fails. -/
theorem composed_putAll : ∀ args : List Value, Composed (puts.putAll args)
  | [] => .pure _
  | _ :: rest => .bind (.read _) fun _ => .bind (.put _) fun _ => composed_putAll rest

theorem composed_puts (args : List Value) : Composed (puts args) := by
  cases args with
  | nil => exact .bind (.put _) fun _ => .pure _
  | cons v rest => exact composed_putAll (v :: rest)

theorem composed_print (args : List Value) : Composed (print args) :=
  .bind (.read _) fun _ => .bind (.put _) fun _ => .pure _

/-- A value is printed for people and then given back. -/
theorem composed_inspect (args : List Value) : Composed (inspect args) :=
  .bind (.read _) fun _ => .bind (.put _) fun _ => .pure _

/-- At the end of the input nothing is taken in. -/
theorem composed_gets (args : List Value) : Composed (gets args) :=
  .bind .takeLine fun _ => .pure _

theorem composed_fillTemplate (args : List Value) : Composed (fillTemplate args) := by
  induction args with
  | nil => exact .fail _
  | cons v rest ih =>
    cases v with
    | str text fresh => exact Template.composed_fillBraces _ _ _
    | environment => exact ih
    | _ => exact .bind .get fun _ => .fail _

/-- A tick is counted and then told. -/
theorem composed_tick (args : List Value) : Composed (tick args) :=
  .bind .count fun _ => .bind .get fun _ => .pure _

theorem composed_boom (args : List Value) : Composed (boom args) :=
  .bind .get fun _ => .fail _

/-- A game can state a failure of the program, but not where. -/
theorem composed_fail (args : List Value) : Composed (fail args) :=
  .bind .get fun _ => .state _

theorem composed_more (args : List Value) : Composed (more args) :=
  .bind (.answer _) fun _ => .answer _

open Capability in
theorem isComposed_standard : ∀ entry ∈ standard, entry.2.IsComposed := by
  simp only [standard, List.forall_mem_cons]
  exact ⟨isComposed_reading _ _, isComposed_acting composed_fillTemplate,
    isComposed_acting composed_gets,
    isComposed_reading _ _, isComposed_reading _ _, isComposed_reading _ _,
    isComposed_acting composed_inspect, isComposed_acting composed_print,
    isComposed_acting composed_puts, isComposed_reading _ _, isComposed_reading _ _, by simp⟩

open Capability in
theorem isComposed_game : ∀ entry ∈ game, entry.2.IsComposed := by
  simp only [game, List.forall_mem_cons]
  exact ⟨isComposed_reading _ _, isComposed_acting composed_boom,
    isComposed_acting fun _ => .object _, isComposed_acting composed_fail,
    isComposed_reading _ _, isComposed_reading _ _, isComposed_reading _ _,
    fun _ _ => .answer _, isComposed_reading _ _,
    isComposed_acting fun _ => .object _, isComposed_acting composed_more,
    isComposed_reading _ _, isComposed_reading _ _, isComposed_reading _ _,
    isComposed_acting composed_tick, isComposed_acting fun _ => .object _, by simp⟩

end Routine

theorem Setting.isComposed_routines (s : Setting) : ∀ entry ∈ s.routines, entry.2.IsComposed := by
  cases s with
  | standard => exact Routine.isComposed_standard
  | game =>
    intro entry hentry
    rcases List.mem_append.mp hentry with h | h
    · exact Routine.isComposed_game entry h
    · exact Routine.isComposed_standard entry h
  | _ => simp [routines]

/-! ### Bridges -/

/-- **A bridge is composed**: so is every answer to a question, and a truth test only reads the
world; a text that is made changes the heap and nothing else. -/
structure Bridge.IsComposed (b : Bridge Value World) : Prop where
  has (target : Value) (name : String) : Composed (b.has target name)
  invoke (activation : Activation) (target : Value) (name : String) (args : List Value) :
    Composed (b.invoke activation target name args)
  truthy (v : Value) : ∃ f : World → Except Mishap Bool, b.truthy v = Act.read f
  text (s : String) (w : World) : ∃ heap, (b.text s w).2 = { w with heap := heap }

namespace Bridges

theorem isComposed_capability {w : World} {target : Value} {name : String} {c : Capability}
    (h : reflection.capability? w target name = some c) : c.IsComposed := by
  have hoperator (op : Operator) : (op.capability target).IsComposed :=
    Capability.isComposed_reading _ _
  unfold Reflection.capability? at h
  split at h
  · -- of the environment there are only routines
    rcases Option.or_eq_some_iff.mp h with hregistered | ⟨-, hmarked⟩
    · simp only [reflection, World.registered?] at hregistered
      split at hregistered <;> cases hregistered
      exact Capability.isComposed_reading _ _
    · exact Setting.isComposed_routines w.setting _ (mem_of_lookup_eq_some hmarked)
  · simp only [Reflection.valueCapability?] at h
    split at h
    · cases h
      exact hoperator _
    · split at h
      · cases h
      · split at h
        · next hmethod =>
          cases h
          exact World.isComposed_method hmethod
        · obtain ⟨op, -, rfl⟩ := Option.map_eq_some_iff.mp h
          exact hoperator op

theorem reflective_isComposed : reflective.IsComposed where
  has _ _ := .bind .get fun _ => .pure _
  invoke activation target name args := by
    refine .bind .get fun w => ?_
    cases hc : reflection.capability? w target name with
    | some c => exact (isComposed_capability hc).invoke activation name args
    | none => exact .fail _
  truthy v := ⟨_, rfl⟩
  text s w := ⟨_, rfl⟩

theorem nilFalse_isComposed : nilFalse.IsComposed where
  has := reflective_isComposed.has
  invoke := reflective_isComposed.invoke
  truthy _ := ⟨fun _ => .ok _, rfl⟩
  text := reflective_isComposed.text

theorem table_isComposed : table.IsComposed where
  has _ _ := .pure _
  invoke _ _ _ _ := .respond _
  truthy := reflective_isComposed.truthy
  text := reflective_isComposed.text

theorem hollow_isComposed : hollow.IsComposed where
  has _ _ := .ite (.fail _) (.pure _)
  invoke _ _ _ _ := .fail _
  truthy := reflective_isComposed.truthy
  text := reflective_isComposed.text

end Bridges

end Treewalk
