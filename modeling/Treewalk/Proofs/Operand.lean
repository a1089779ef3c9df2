import Treewalk.Proofs.Dispatch
import Treewalk.Proofs.Output

/-!
# Operators leave their operands alone

An operator reads the heap and describes what it makes, and the heap is extended with that
afterwards. So it changes no list, no dictionary and no object of the host, and nothing is put out,
taken in or counted, whatever its operands share with one another: the world after it is the world
before it, with at most one thing more in its heap (`Treewalk.World.Enlarges`). If it fails, the
world is the same.

A list that is made by adding or by multiplying is a new one, even if it equals an operand. What is
done to it later is done to a cell that did not exist before, since the methods of a list change no
cell but their own (`Treewalk.World.ChangedAt`).

* **`Treewalk.Bridges.invoke_list_changedAt`**: whatever is asked of a list, other cells stay as
  they are.
* **`Treewalk.Bridges.operators_harmless`**: operators change nothing that there is.
-/

namespace Treewalk

open Act

variable {α β : Type}

/-! ### Worlds with more in them -/

/-- **A world with more in its heap**: what was there is where it was, and all else is the same. -/
structure World.Enlarges (w w' : World) : Prop where
  eq_but_heap : w' = { w with heap := w'.heap }
  cells_prefix : w.heap.cells.toList <+: w'.heap.cells.toList

namespace World

theorem Enlarges.refl (w : World) : w.Enlarges w := ⟨rfl, List.prefix_refl _⟩

/-- What there is stays in its cell. -/
theorem Enlarges.cell?_eq {w w' : World} (h : w.Enlarges w') {a : Nat}
    (ha : a < w.heap.cells.size) : w'.heap.cell? a = w.heap.cell? a := by
  obtain ⟨more, hmore⟩ := h.cells_prefix
  rw [Heap.cell?, Heap.cell?, ← Array.getElem?_toList, ← Array.getElem?_toList, ← hmore]
  exact List.getElem?_append_left (by simpa using ha)

/-- A cell that is added comes behind the others. -/
theorem enlarges_alloc (w : World) (c : Cell) :
    w.Enlarges { w with heap := (w.heap.alloc c).2 } :=
  ⟨rfl, by simp [Heap.alloc]⟩

theorem enlarges_realise (w : World) (answer : Answer) : w.Enlarges (w.realise answer).2 := by
  cases answer with
  | known v => exact .refl w
  | float x => exact ⟨rfl, List.prefix_refl _⟩
  | list items => exact w.enlarges_alloc _
  | tuple items => exact w.enlarges_alloc _
  | dict entries => exact w.enlarges_alloc _

end World

/-- **An answer is new**: it is no object that there is already. -/
def Answer.IsNew : Answer → Prop
  | .known (.ref _) => False
  | _ => True

/-- What is made of a new answer is at the end of the heap, if it is in the heap. -/
theorem Answer.IsNew.address_eq {answer : Answer} (h : answer.IsNew) {w : World} {a : Nat}
    (ha : (w.realise answer).1 = .ref a) : a = w.heap.cells.size := by
  cases answer with
  | known v =>
    obtain rfl : v = .ref a := ha
    exact h.elim
  | float x => cases ha
  | list items => cases ha; rfl
  | tuple items => cases ha; rfl
  | dict entries => cases ha; rfl

/-! ### Adding and multiplying -/

/-- **Nothing old is given**: what a computation gives, if it gives anything, is new. -/
def GivesNew (x : Except Mishap Answer) : Prop := ∀ answer, x = .ok answer → answer.IsNew

namespace GivesNew

theorem ok {answer : Answer} (h : answer.IsNew) : GivesNew (.ok answer) := by
  rintro _ ⟨⟩
  exact h

theorem error (m : Mishap) : GivesNew (.error m) := fun _ h => nomatch h

theorem bind {x : Except Mishap α} {f : α → Except Mishap Answer} (hf : ∀ a, GivesNew (f a)) :
    GivesNew (x >>= f) := by
  cases x with
  | ok a => exact hf a
  | error m => exact error m

theorem ite {p : Prop} [Decidable p] {x y : Except Mishap Answer} (hx : GivesNew x)
    (hy : GivesNew y) : GivesNew (if p then x else y) := by
  split
  · exact hx
  · exact hy

theorem intArithmetic (op : Value.Arithmetic) (m n : Int) :
    GivesNew (Value.intArithmetic op m n) := by
  cases op with
  | add | sub | mul => exact ok trivial
  | div => exact bind fun _ => ok trivial
  | mod => exact ite (error _) (ok trivial)
  | pow => exact ite (ok trivial) (bind fun _ => bind fun _ => bind fun _ => ok trivial)

theorem floatArithmetic (op : Value.Arithmetic) (x y : Float) :
    GivesNew (Value.floatArithmetic op x y) := by
  cases op with
  | add | sub | mul => exact ok trivial
  | div => exact ite (error _) (ok trivial)
  | mod | pow => exact bind fun _ => ok trivial

theorem arithmetic (op : Value.Arithmetic) (x y : Value.Number) :
    GivesNew (Value.arithmetic op x y) := by
  have hmixed : GivesNew (do Value.floatArithmetic op (← x.toFloat) (← y.toFloat)) :=
    bind fun _ => bind fun _ => floatArithmetic op _ _
  cases x with
  | int m =>
    cases y with
    | int n => exact intArithmetic op m n
    | float v => exact hmixed
  | float u => exact hmixed

theorem concat (w : World) (s : Sequence) (v : Value) : GivesNew (w.concat s v) := by
  unfold World.concat
  split
  · exact ok trivial
  · exact ok trivial
  · exact ok trivial
  · exact ok trivial
  · exact error _
  · exact error _

theorem repeatBy (w : World) (s : Sequence) (count : Value) : GivesNew (w.repeatBy s count) := by
  unfold World.repeatBy
  split
  · exact error _
  · exact ite (error _) (ok (by cases s <;> trivial))

/-- **A sum or a product is new.** -/
theorem arithmeticOn {op : Value.Arithmetic} (hop : op = .add ∨ op = .mul) (w : World)
    (a b : Value) : GivesNew (Operator.arithmeticOn w op a b) := by
  unfold Operator.arithmeticOn
  split
  · exact arithmetic op _ _
  · split
    · exact concat w _ b
    · exact repeatBy w _ b
    · exact ite (repeatBy w _ a) (error _)
    · simp at hop
    · simp at hop
    · exact error _

theorem apply {op : Value.Arithmetic} (hop : op = .add ∨ op = .mul) (w : World) (v : Value)
    (args : List Value) : GivesNew (Operator.apply w (.arithmetic op) v args) := by
  match args with
  | [b] => exact arithmeticOn hop w v b
  | [] | _ :: _ :: _ => exact ok trivial

end GivesNew

/-! ### Lists change themselves -/

/-- There is a list in a cell. -/
def World.IsListAt (w : World) (a : Nat) : Prop := ∃ items, w.heap.cell? a = some (.list items)

/-- **A world after another in which a list may have changed**: it is a list still, and the other
cells that there were are as they were. -/
structure World.ChangedAt (a : Nat) (w w' : World) : Prop where
  size_le : w.heap.cells.size ≤ w'.heap.cells.size
  cell?_eq {b : Nat} : b ≠ a → b < w.heap.cells.size → w'.heap.cell? b = w.heap.cell? b
  isListAt : w.IsListAt a → w'.IsListAt a

namespace World

theorem IsListAt.lt_size {w : World} {a : Nat} (h : w.IsListAt a) : a < w.heap.cells.size := by
  obtain ⟨items, hitems⟩ := h
  exact (Array.getElem?_eq_some_iff.mp hitems).1

theorem ChangedAt.refl (a : Nat) (w : World) : w.ChangedAt a w :=
  ⟨Nat.le_refl _, fun _ _ => rfl, id⟩

theorem ChangedAt.trans {a : Nat} {w w₁ w' : World} (h : w.ChangedAt a w₁)
    (h' : w₁.ChangedAt a w') : w.ChangedAt a w' where
  size_le := Nat.le_trans h.size_le h'.size_le
  cell?_eq hne hb :=
    (h'.cell?_eq hne (Nat.lt_of_lt_of_le hb h.size_le)).trans (h.cell?_eq hne hb)
  isListAt ha := h'.isListAt (h.isListAt ha)

/-- A heap that has more in it has not changed anywhere. -/
theorem Enlarges.changedAt {w w' : World} (h : w.Enlarges w') (a : Nat) : w.ChangedAt a w' where
  size_le := by simpa using h.cells_prefix.length_le
  cell?_eq _ hb := h.cell?_eq hb
  isListAt ha := ha.imp fun _ hitems => (h.cell?_eq ha.lt_size).trans hitems

/-- A list is changed. -/
theorem changedAt_store (w : World) (a : Nat) (items : List Value) :
    w.ChangedAt a { w with heap := w.heap.store a (.list items) } where
  size_le := Nat.le_of_eq Array.size_setIfInBounds.symm
  cell?_eq hne _ := Array.getElem?_setIfInBounds_ne hne.symm
  isListAt ha := ⟨items, Array.getElem?_setIfInBounds_self_of_lt ha.lt_size⟩

end World

/-- **An act is confined** to a cell: it changes no other. -/
def Act.Confined (a : Nat) (x : Act α) : Prop :=
  ∀ w : World, w.ChangedAt a (Ask.worldAfter x w)

namespace Act.Confined

variable {a : Nat}

theorem throw (fault : Fault) : Confined a (throw fault : Act α) := fun w => .refl a w

theorem bind {x : Act α} {f : α → Act β} (hx : Confined a x) (hf : ∀ v, Confined a (f v)) :
    Confined a (x >>= f) :=
  fun w => Ask.bind_worldAfter (R := World.ChangedAt a) .trans (hx w) hf

/-- **To be confined to the cell of a list is kept by that list.** -/
theorem keptByLists (a : Nat) : KeptByLists a (Confined a) where
  pure _ w := .refl a w
  bind := bind
  get w := .refl a w
  fail _ := throw _
  answer reply w := (w.enlarges_realise reply).changedAt a
  store items w := w.changedAt_store a items

end Act.Confined

namespace Capability

variable {a : Nat}

/-- A capability is confined to a cell. -/
def IsConfined (a : Nat) (c : Capability) : Prop :=
  ∀ activation args, Confined a (c.run activation args)

theorem IsConfined.invoke {c : Capability} (hc : c.IsConfined a) (activation : Activation)
    (name : String) (args : List Value) : Confined a (c.invoke activation name args) := by
  unfold Capability.invoke
  cases c.signature with
  | none => exact hc activation args
  | some s =>
    dsimp only
    split
    · exact hc activation args
    · exact .throw _

end Capability

theorem Operator.isConfined_capability (op : Operator) (v : Value) (a : Nat) :
    (op.capability v).IsConfined a :=
  fun _ _ => (Confined.keptByLists a).respond _

theorem isConfined_listMethod {a : Nat} {items : List Value} {name : String} {c : Capability}
    (h : listMethod? a items name = some c) : c.IsConfined a := by
  obtain ⟨entry, hentry, rfl⟩ := Option.map_eq_some_iff.mp h
  exact fun _ args => ListMethod.kept_table (Confined.keptByLists a) items args _
    (mem_of_lookup_eq_some hentry)

namespace Bridges

/-- What a list can be asked for is confined to its cell. -/
theorem isConfined_of_list {w : World} {a : Nat} {items : List Value} {name : String}
    {c : Capability} (ha : w.heap.cell? a = some (.list items))
    (h : reflection.capability? w (.ref a) name = some c) : c.IsConfined a := by
  have hmethod : w.method? (.ref a) name = listMethod? a items name := by
    simp only [World.method?, World.plainMethod?, ha]
  change reflection.valueCapability? w (.ref a) name = some c at h
  simp only [Reflection.valueCapability?] at h
  split at h
  · cases h
    exact Operator.isConfined_capability _ _ a
  · split at h
    · cases h
    · split at h
      · next hc =>
        cases h
        exact isConfined_listMethod (hmethod.symm.trans hc)
      · obtain ⟨op, -, rfl⟩ := Option.map_eq_some_iff.mp h
        exact Operator.isConfined_capability _ _ a

/-- **Whatever is asked of a list, other cells stay as they are**: its methods change its own, and
operators change none. -/
theorem invoke_list_changedAt {w : World} {a : Nat} (ha : w.IsListAt a) (activation : Activation)
    (name : String) (args : List Value) :
    w.ChangedAt a ((reflective.invoke activation (.ref a) name args).worldAfter w) := by
  obtain ⟨items, hitems⟩ := ha
  cases hc : reflection.capability? w (.ref a) name with
  | some c =>
    have hinvoke : reflective.invoke activation (.ref a) name args w =
        c.invoke activation name args w := reflection.invoke_of_capability hc
    rw [Ask.worldAfter, hinvoke]
    exact (isConfined_of_list hitems hc).invoke activation name args w
  | none =>
    rw [Ask.worldAfter, reflective, reflection.invoke_of_no_capability hc]
    exact .refl a w

/-- The world after a value was asked for its capabilities, one after the other. -/
def afterAsking (v : Value) (requests : List (Activation × Request Value)) (w : World) : World :=
  requests.foldl (fun w r => (reflective.invoke r.1 v r.2.name r.2.args).worldAfter w) w

theorem afterAsking_changedAt {a : Nat} (requests : List (Activation × Request Value)) :
    ∀ {w : World}, w.IsListAt a → w.ChangedAt a (afterAsking (.ref a) requests w) := by
  induction requests with
  | nil => exact fun _ => .refl a _
  | cons r rest ih =>
    intro w ha
    have hfirst := invoke_list_changedAt ha r.1 r.2.name r.2.args
    exact hfirst.trans (ih (hfirst.isListAt ha))

end Bridges

/-! ### Operators -/

theorem respond_apply (f : World → Except Mishap Answer) (w : World) :
    Act.respond f w = (Act.lift (f w) >>= Act.answer) w := rfl

/-- What is read off the world is made. -/
theorem respond_of_ok {f : World → Except Mishap Answer} {w : World} {reply : Answer}
    (h : f w = .ok reply) : Act.respond f w = .ok (w.realise reply).1 (w.realise reply).2 := by
  rw [respond_apply, h]
  rfl

/-- A mishap changes nothing. -/
theorem respond_of_error {f : World → Except Mishap Answer} {w : World} {m : Mishap}
    (h : f w = .error m) : Act.respond f w = .error (.host m) w := by
  rw [respond_apply, h]
  rfl

/-- **A name stands for an operator on a value**, which is not the environment: the value is of a
type that has the operator, or every value has it and this one has no method of the name. -/
structure Operator.StandsFor (op : Operator) (name : String) (w : World) (v : Value) : Prop where
  ofName_eq : Operator.ofName? name = some op
  not_environment : v ≠ .environment
  suits_or : op.suits w v = true ∨ op.isUniversal = true ∧ w.method? v name = none

namespace Bridges

theorem capability_of_standsFor {op : Operator} {name : String} {w : World} {v : Value}
    (h : op.StandsFor name w v) :
    reflection.capability? w v name = some (op.capability v) := by
  have hvalue : reflection.capability? w v name = reflection.valueCapability? w v name := by
    cases v with
    | environment => exact absurd rfl h.not_environment
    | _ => rfl
  rw [hvalue]
  have hpublic := Operator.not_startsWith_of_ofName h.ofName_eq
  simp only [Reflection.valueCapability?, h.ofName_eq]
  by_cases hsuits : op.suits w v = true
  · have hfound : (some op).filter (reflection.suits w v) = some op :=
      Option.filter_some.trans (if_pos hsuits)
    simp only [hfound]
    rfl
  · obtain ⟨huniversal, hmethod⟩ := h.suits_or.resolve_left hsuits
    have hnot : (some op).filter (reflection.suits w v) = none :=
      Option.filter_some.trans (if_neg hsuits)
    have hnone : reflection.method? w v name = none := hmethod
    simp only [hnot, hpublic, hnone, Option.filter_some, huniversal]
    rfl

/-- **What an operator does**: nothing, or what it gives in the world as it is is added to that. -/
theorem invoke_operator {op : Operator} {name : String} {w : World} {v : Value}
    (h : op.StandsFor name w v) (activation : Activation) (args : List Value) :
    (∃ fault, reflective.invoke activation v name args w = .error fault w) ∨
      ∃ answer, op.apply w v args = .ok answer ∧
        reflective.invoke activation v name args w =
          .ok (w.realise answer).1 (w.realise answer).2 := by
  have hinvoke : reflective.invoke activation v name args w =
      (op.capability v).invoke activation name args w :=
    reflection.invoke_of_capability (capability_of_standsFor h)
  rw [hinvoke]
  simp only [Operator.capability, Capability.invoke, Capability.reading, Capability.acting, takes,
    Signature.check]
  split
  · cases happly : op.apply w v args with
    | ok answer =>
      exact .inr ⟨answer, rfl, respond_of_ok happly⟩
    | error m =>
      exact .inl ⟨.host m, respond_of_error happly⟩
  · exact .inl ⟨_, rfl⟩

/-- **Operators are harmless.** Whatever value a name stands for an operator on, and whatever the
arguments: if the invocation fails, the world is the same. If it returns, the world is the same but
for what was added to its heap. And if the operator adds or multiplies, what it gives is new: if it
is in a cell, nothing was there before, and if it is a list, then no cell that there was is changed
by anything that it is asked for later. -/
theorem operators_harmless {op : Operator} {name : String} {w : World} {v : Value}
    (h : op.StandsFor name w v) (activation : Activation) (args : List Value) :
    match reflective.invoke activation v name args w with
    | .error _ w' => w' = w
    | .ok result w' =>
      w.Enlarges w' ∧
        (op = .arithmetic .add ∨ op = .arithmetic .mul → ∀ a, result = .ref a →
          w.heap.cell? a = none ∧
          ∀ later : World, w.heap.cells.size ≤ later.heap.cells.size → later.IsListAt a →
            ∀ (requests : List (Activation × Request Value)) (b : Nat), b < w.heap.cells.size →
              (afterAsking result requests later).heap.cell? b = later.heap.cell? b) := by
  rcases invoke_operator h activation args with ⟨fault, hinvoke⟩ | ⟨answer, happly, hinvoke⟩
  · simp only [hinvoke]
  · simp only [hinvoke]
    refine ⟨w.enlarges_realise answer, ?_⟩
    intro hop a hresult
    have hnew : answer.IsNew := by
      rcases hop with rfl | rfl
      · exact GivesNew.apply (.inl rfl) w v args answer happly
      · exact GivesNew.apply (.inr rfl) w v args answer happly
    obtain rfl := hnew.address_eq hresult
    refine ⟨Array.getElem?_eq_none (Nat.le_refl _), fun later hsize hlist requests b hb => ?_⟩
    rw [hresult]
    exact (afterAsking_changedAt requests hlist).cell?_eq (Nat.ne_of_lt hb)
      (Nat.lt_of_lt_of_le hb hsize)

/-- A world with a list in it. -/
def listed : World :=
  { World.start .standard "" with heap := ⟨#[.list [.int 1]], 0⟩ }

/-- Once times itself, a list gives another one. That one can be cleared. -/
theorem operators_harmless_of_listed : ∃ w,
    reflective.invoke ⟨toplevelName, 1⟩ (.ref 0) "times" [.int 1] listed = .ok (.ref 1) w ∧
      (afterAsking (.ref 1) [(⟨toplevelName, 1⟩, ⟨"clear", []⟩)] w).heap.cell? 0 =
        some (.list [.int 1]) ∧
      ((Value.ref 1).listItems?
        (afterAsking (.ref 1) [(⟨toplevelName, 1⟩, ⟨"clear", []⟩)] w).heap).map List.length =
          some 0 := by
  have hstands : (Operator.arithmetic .mul).StandsFor "times" listed (.ref 0) :=
    ⟨by decide, nofun, .inl rfl⟩
  have hinvoke : reflective.invoke ⟨toplevelName, 1⟩ (.ref 0) "times" [.int 1] listed =
      .ok (.ref 1) { listed with heap := ⟨#[.list [.int 1], .list [.int 1]], 0⟩ } := rfl
  have hharmless := operators_harmless hstands ⟨toplevelName, 1⟩ [.int 1]
  rw [hinvoke] at hharmless
  obtain ⟨-, hlater⟩ := hharmless.2 (.inr rfl) 1 rfl
  refine ⟨_, hinvoke, ?_, by decide +kernel⟩
  exact hlater _ (by decide) ⟨[.int 1], rfl⟩ [(⟨toplevelName, 1⟩, ⟨"clear", []⟩)] 0 (by decide)

end Bridges

end Treewalk
