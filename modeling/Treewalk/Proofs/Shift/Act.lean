import Treewalk.Proofs.Mirror
import Treewalk.Proofs.Shift.Text

/-!
# Acts behind what was left

Whatever a standard host does, the host with something left in it does the same further up: it gives
the shift of the same value, and its world afterwards is again the shift of the other's. One act
*echoes* the other (`Treewalk.Act.Echoes`). This is shown for the acts that hosts are made of, and
then for the methods of lists and dictionaries, which change cells and put in new ones.

A world is *standard* here (`Treewalk.World.IsStandard`) if it is that of the standard environment,
no routine was registered, its heap is a plain one, and its input is at the end. What was put out
earlier lies behind a host, but input that was taken in would be missed: this is the one thing of a
standard host that runs use up.
-/

namespace Treewalk

variable {α α' β β' : Type} {s : Shift} {w : World}

/-- **A standard host at the end of its input**, without routines that were registered later;
whatever else was left in it. -/
structure World.IsSpent (w : World) : Prop where
  setting_eq : w.setting = .standard
  registered_eq : w.registered = []
  input_eq : w.input = []

/-- What a host is spent by is its setting, its routines and its input. -/
theorem World.IsSpent.of_eq {w' : World} (hw : w.IsSpent) (hsetting : w'.setting = w.setting)
    (hregistered : w'.registered = w.registered) (hinput : w'.input = w.input) : w'.IsSpent :=
  ⟨hsetting.trans hw.setting_eq, hregistered.trans hw.registered_eq, hinput.trans hw.input_eq⟩

/-- **A standard world**: that of a spent host, with a plain heap. -/
structure World.IsStandard (w : World) : Prop extends w.IsSpent where
  plain : w.heap.IsPlain

/-- A standard world, and the same behind what was left. -/
def Shifted (s : Shift) (w w' : World) : Prop := w.IsStandard ∧ w' = w.shift s

/-! ### Acts -/

/-- **One act echoes another**: in a standard world and in its shift they end alike, with shifted
values, and in worlds of which one is again the shift of the other. -/
def Act.Echoes (s : Shift) (f : α → α') (x : Act α) (x' : Act α') : Prop :=
  ∀ w : World, w.IsStandard → Image f (Shifted s) (x w) (x' (w.shift s))

namespace Heap

variable {h : Heap} {c : Cell}

/-- A container may be added to a plain heap. -/
theorem IsPlain.alloc (hplain : h.IsPlain) (hc : c.isContainer = true) :
    (h.alloc c).2.IsPlain := by
  intro a d hd
  rw [cell?, Heap.alloc, Array.getElem?_push] at hd
  split at hd
  · cases hd
    exact hc
  · exact hplain a d hd

theorem IsPlain.store (hplain : h.IsPlain) (a : Nat) (hc : c.isContainer = true) :
    (h.store a c).IsPlain := by
  intro b d hd
  rw [cell?, Heap.store, Array.getElem?_setIfInBounds] at hd
  split at hd
  · split at hd
    · cases hd
      exact hc
    · cases hd
  · exact hplain b d hd

end Heap

namespace World

theorem IsStandard.inHeap (hw : w.IsStandard) {heap : Heap} (hplain : heap.IsPlain) :
    { w with heap := heap }.IsStandard :=
  ⟨⟨hw.setting_eq, hw.registered_eq, hw.input_eq⟩, hplain⟩

/-- What is made new is a container or a scalar, so a standard world stays one. -/
theorem IsStandard.realise (hw : w.IsStandard) (a : Answer) : (w.realise a).2.IsStandard := by
  cases a with
  | known v => exact hw
  | float x => exact hw.inHeap hw.plain
  | list | tuple | dict => exact hw.inHeap (hw.plain.alloc rfl)

theorem new_shift (c : Cell) : realise.new (w.shift s) (c.shift s) =
    ((realise.new w c).1.shift s, (realise.new w c).2.shift s) := by
  simp only [realise.new, heap_shift, Heap.alloc_shift]
  rfl

/-- A new value gets the address or the stamp behind all that were there. -/
theorem realise_shift (a : Answer) :
    (w.shift s).realise (a.shift s) = ((w.realise a).1.shift s, (w.realise a).2.shift s) := by
  cases a with
  | known v => rfl
  | float x => exact congrArg (·, _) (Value.computed_shift x w.heap.stamps)
  | list items => exact new_shift (.list items)
  | tuple items => exact new_shift (.tuple items)
  | dict entries => exact new_shift (.dict entries)

end World

namespace Act.Echoes

variable {f : α → α'} {g : β → β'}

theorem pure (a : α) : Echoes s f (pure a) (pure (f a)) :=
  fun _ hw => .ok ⟨hw, rfl⟩

theorem throw (fault : Fault) : Echoes s f (throw fault) (throw fault) :=
  fun _ hw => .error ⟨hw, rfl⟩

theorem fail (m : Mishap) : Echoes s f (Act.fail m) (Act.fail m) := throw _

/-- One act after another. -/
theorem bind {x : Act α} {x' : Act α'} {y : α → Act β} {y' : α' → Act β'} (hx : Echoes s f x x')
    (hy : ∀ a, Echoes s g (y a) (y' (f a))) : Echoes s g (x >>= y) (x' >>= y') := by
  intro w hw
  change Image g _ (EStateM.bind x y w) (EStateM.bind x' y' (w.shift s))
  unfold EStateM.bind
  have hresult := hx w hw
  generalize x w = r at hresult
  generalize x' (w.shift s) = r' at hresult
  cases hresult with
  | @ok a w₁ w₂ hshifted =>
    obtain ⟨hw₁, rfl⟩ := hshifted
    exact hy a w₁ hw₁
  | error hshifted => exact .error hshifted

/-- The world is looked at, and then something is done. -/
theorem get {y : World → Act β} {y' : World → Act β'}
    (hy : ∀ w, w.IsStandard → Echoes s g (y w) (y' (w.shift s))) :
    Echoes s g (get >>= y) (get >>= y') :=
  fun w hw => hy w hw w hw

theorem lift {x : Except Mishap α} {x' : Except Mishap α'} (hx : x' = x.map f) :
    Echoes s f (Act.lift x) (Act.lift x') := by
  subst hx
  cases x with
  | ok a => exact pure a
  | error m => exact fail m

theorem liftSame (x : Except Mishap α) : Echoes s id (Act.lift x) (Act.lift x) :=
  lift (by cases x <;> rfl)

theorem read {x : World → Except Mishap α} {x' : World → Except Mishap α'}
    (hx : ∀ w, w.IsStandard → x' (w.shift s) = (x w).map f) : Echoes s f (Act.read x) (Act.read x') :=
  get fun w hw => lift (hx w hw)

/-- What is read off the world is the same. -/
theorem readSame {x x' : World → Except Mishap α} (hx : ∀ w, w.IsStandard → x' (w.shift s) = x w) :
    Echoes s id (Act.read x) (Act.read x') := by
  refine read fun w hw => (hx w hw).trans ?_
  cases x w <;> rfl

theorem answer (a : Answer) :
    Echoes s (Value.shift s) (Act.answer a) (Act.answer (a.shift s)) := by
  intro w hw
  change Image _ _ (.ok (w.realise a).1 (w.realise a).2)
    (.ok ((w.shift s).realise (a.shift s)).1 ((w.shift s).realise (a.shift s)).2)
  rw [World.realise_shift]
  exact .ok ⟨hw.realise a, rfl⟩

theorem respond {x x' : World → Except Mishap Answer}
    (hx : ∀ w, w.IsStandard → x' (w.shift s) = (x w).map (Answer.shift s)) :
    Echoes s (Value.shift s) (Act.respond x) (Act.respond x') :=
  bind (read hx) answer

theorem store (a : Nat) {c : Cell} (hc : c.isContainer = true) :
    Echoes s id (Act.store a c) (Act.store (s.address a) (c.shift s)) := by
  intro w hw
  have hstore : { w.shift s with heap := (w.shift s).heap.store (s.address a) (c.shift s) } =
      { w with heap := w.heap.store a c }.shift s := by
    rw [World.heap_shift, Heap.store_shift]
    rfl
  exact .ok ⟨hw.inHeap (hw.plain.store a hc), hstore⟩

/-- A cell is changed and a value is given. -/
theorem stored (a : Nat) {c : Cell} (hc : c.isContainer = true) (v : Value) :
    Echoes s (Value.shift s) (do Act.store a c; return v)
      (do Act.store (s.address a) (c.shift s); return v.shift s) :=
  bind (store a hc) fun _ => pure v

/-- A text is refused behind what was left if it is refused at all, since the stream is the same. -/
theorem write (text : String) : Echoes s id (Act.write text) (Act.write text) := by
  intro w hw
  have hmachine : (w.shift s).machine = w.machine := rfl
  cases htext : w.machine.refusal 0 text with
  | none =>
    rw [write_of_taken htext, write_of_taken (hmachine ▸ htext)]
    exact .ok ⟨⟨hw.toIsSpent.of_eq rfl rfl rfl, hw.plain⟩, by simp [World.shift]⟩
  | some m =>
    rw [write_of_refused htext, write_of_refused (hmachine ▸ htext)]
    exact .error ⟨⟨hw.toIsSpent.of_eq rfl rfl rfl, hw.plain⟩, rfl⟩

/-- A text is refused behind what was left if it is refused without it: the machine is the same. -/
theorem put (text : String) : Echoes s id (Act.put text) (Act.put text) :=
  bind (f := id) (fun _ hw => .ok ⟨⟨hw.toIsSpent.of_eq rfl rfl rfl, hw.plain⟩, rfl⟩) fun _ =>
    write text

/-- So is the place where something lies. -/
theorem locate : Echoes s id Act.locate Act.locate :=
  fun _ hw => .ok ⟨⟨hw.toIsSpent.of_eq rfl rfl rfl, hw.plain⟩, rfl⟩

theorem annotate : Echoes s id Act.annotate Act.annotate :=
  fun _ hw => .ok ⟨⟨hw.toIsSpent.of_eq rfl rfl rfl, hw.plain⟩, rfl⟩

/-- At the end of the input there is no line. -/
theorem takeLine : Echoes s id Act.takeLine Act.takeLine := by
  intro w hw
  have hinput := hw.input_eq
  obtain ⟨setting, heap, registered, effects, output, input, ticks, machine⟩ := w
  subst hinput
  exact .ok ⟨hw, rfl⟩

theorem ite {p : Prop} [Decidable p] {x y : Act α} {x' y' : Act α'} (hx : Echoes s f x x')
    (hy : Echoes s f y y') : Echoes s f (if p then x else y) (if p then x' else y') := by
  split
  · exact hx
  · exact hy

end Act.Echoes

open Act

/-! ### Lists and dictionaries -/

namespace ListMethod

/-- A reply of a list does not see what was left. -/
def IsBlind (s : Shift) (r : Reply) : Prop :=
  ∀ (a : Nat) (items args : List Value), Echoes s (Value.shift s) (r a items args)
    (r (s.address a) (items.map (Value.shift s)) (args.map (Value.shift s)))

/-- A list that becomes another one does so in its cell, wherever that is. -/
theorem echoes_become (a : Nat) (items : List Value) :
    Echoes s (Value.shift s) (become a items)
      (become (s.address a) (items.map (Value.shift s))) :=
  .stored a rfl .nil

/-- Whether an item equals one of the arguments. -/
theorem any_alike_shift (args : List Value) (v : Value) :
    ((args.map (Value.shift s)).any fun u => (w.shift s).heap.alike (v.shift s) u) =
      args.any fun u => w.heap.alike v u := by
  simp only [List.any_map, Function.comp_def, World.heap_shift, Heap.alike_shift]

theorem isBlind_append : IsBlind s append := by
  intro a items args
  unfold append
  rw [← List.map_take, ← List.map_append]
  exact echoes_become a _

theorem isBlind_clear : IsBlind s clear := fun a _ _ => echoes_become a []

theorem isBlind_copy : IsBlind s copy := fun _ items _ => .answer (.list items)

theorem isBlind_count : IsBlind s count := by
  intro a items args
  refine .get fun w _ => ?_
  have hcount : ((items.map (Value.shift s)).countP fun x =>
      (args.map (Value.shift s)).any fun v => (w.shift s).heap.alike x v) =
      items.countP fun x => args.any fun v => w.heap.alike x v := by
    simp only [List.countP_map, Function.comp_def, any_alike_shift]
  rw [hcount]
  exact .pure (Value.int _)

theorem isBlind_extend : IsBlind s extend := by
  intro a items args
  refine .bind (f := List.map (Value.shift s)) (.read fun w _ => ?_) fun more => ?_
  · rw [Value.headD_map_shift]
    exact World.items_shift _
  · rw [← List.map_append]
    exact echoes_become a _

theorem isBlind_insert : IsBlind s insert := by
  intro a items args
  refine .bind (f := id) (.readSame fun w _ => ?_) fun i => ?_
  · rw [Value.headD_map_shift]
    exact World.size_shift _
  · simp only [List.length_map, id, ← List.map_take, ← List.map_drop, ← List.map_append]
    exact echoes_become a _

/-- An item at a place is taken out. -/
theorem echoes_popAt (a : Nat) (items : List Value) (i : Int) :
    Echoes s (Value.shift s) (popAt a items i)
      (popAt (s.address a) (items.map (Value.shift s)) i) := by
  simp only [popAt, List.isEmpty_map, List.length_map, List.getElem?_map]
  refine .ite (.fail _) (.ite (.fail _) ?_)
  generalize (if i < 0 then i + (items.length : Int) else i).toNat = position
  cases items[position]? with
  | none => exact .fail _
  | some v =>
    simp only [Option.map_some, List.eraseIdx_map]
    exact .stored a rfl v

theorem isBlind_pop : IsBlind s pop := by
  intro a items args
  cases args with
  | nil => exact echoes_popAt a items _
  | cons v rest =>
    exact .bind (f := id) (.readSame fun w _ => World.size_shift v) fun i =>
      echoes_popAt a items i

theorem isBlind_remove : IsBlind s remove := by
  intro a items args
  refine .get fun w _ => ?_
  have hfind : ((items.map (Value.shift s)).findIdx? fun x =>
      (args.map (Value.shift s)).any fun v => (w.shift s).heap.alike x v) =
      items.findIdx? fun x => args.any fun v => w.heap.alike x v := by
    simp only [List.findIdx?_map, Function.comp_def, any_alike_shift]
  rw [hfind]
  cases items.findIdx? fun x => args.any fun v => w.heap.alike x v with
  | none => exact .fail _
  | some i =>
    simp only [List.eraseIdx_map]
    exact echoes_become a _

theorem isBlind_reverse : IsBlind s reverse := by
  intro a items args
  unfold reverse
  rw [← List.map_reverse]
  exact echoes_become a _

/-- An item that is not there stands for nil, which is not moved. -/
theorem itemAt_shift (items : List Value) (i : Nat) :
    itemAt (items.map (Value.shift s)).toArray i = (itemAt items.toArray i).shift s := by
  simp only [itemAt, List.getElem?_toArray, List.getElem?_map]
  cases items[i]? <;> rfl

/-- The positions of a list are put in the same order. -/
theorem isBlind_sort : IsBlind s sort := by
  intro a items args
  refine .get fun w _ => ?_
  -- positions are compared by the items there, so both sides sort the same list by the same test
  simp only [itemAt_shift, Comparison.test_shift, List.length_map]
  generalize Sort.sort (fun i j => Comparison.lt.test w (itemAt items.toArray i)
    (itemAt items.toArray j)) (List.range items.length) = result
  obtain ⟨sorted, mishap⟩ := result
  have hsorted : sorted.map (itemAt (items.map (Value.shift s)).toArray) =
      (sorted.map (itemAt items.toArray)).map (Value.shift s) := by
    rw [List.map_map]
    exact List.map_congr_left fun i _ => itemAt_shift items i
  dsimp only
  rw [hsorted]
  refine .bind (.store a rfl) fun _ => ?_
  cases mishap with
  | none => exact .pure Value.nil
  | some m => exact .fail m

theorem isBlind_table : ∀ entry ∈ table, IsBlind s entry.2.2 := by
  simp only [table, List.forall_mem_cons]
  exact ⟨isBlind_append, isBlind_clear, isBlind_copy, isBlind_count, isBlind_extend, isBlind_insert,
    isBlind_pop, isBlind_remove, isBlind_reverse, isBlind_sort, by simp⟩

end ListMethod

namespace DictMethod

/-- A reply of a dictionary does not see what was left. -/
def IsBlind (s : Shift) (r : Reply) : Prop :=
  ∀ (v : Value) (a : Nat) (entries : Entries) (args : List Value),
    Echoes s (Value.shift s) (r v a entries args)
      (r (v.shift s) (s.address a) (entries.map (shiftEntry s)) (args.map (Value.shift s)))

/-- A key is moved, and what stands for its value when it is missing. -/
theorem keyed_shift (args : List Value) :
    keyed (args.map (Value.shift s)) = shiftEntry s (keyed args) := by
  rcases args with _ | ⟨v, _ | ⟨_, _⟩⟩ <;> rfl

theorem isBlind_get : IsBlind s get := by
  intro v a entries args
  unfold get
  rw [keyed_shift]
  generalize keyed args = given
  obtain ⟨key, usual⟩ := given
  refine .read fun w _ => ?_
  simp only [World.checkKey_shift, World.findEntry_shift]
  refine bind_map fun _ => ?_
  cases w.findEntry key entries <;> rfl

theorem isBlind_setDefault : IsBlind s setDefault := by
  intro v a entries args
  unfold setDefault
  rw [keyed_shift]
  generalize keyed args = given
  obtain ⟨key, usual⟩ := given
  refine .bind (.readSame fun w _ => World.checkKey_shift key) fun _ => .get fun w _ => ?_
  simp only [World.findEntry_shift]
  cases w.findEntry key entries with
  | some u => exact .pure u
  | none =>
    have hstored :=
      Echoes.stored (s := s) a (c := .dict (entries ++ [(key, usual)])) rfl usual
    rw [Cell.shift, List.map_append] at hstored
    exact hstored

theorem isBlind_pop : IsBlind s pop := by
  intro v a entries args
  unfold pop
  rw [expectArguments_shift, Value.headD_map_shift, List.isEmpty_map, List.getElem?_map]
  refine .bind (.liftSame _) fun _ => .ite
    (.bind (.readSame fun w _ => World.checkKey_shift _) fun _ => .get fun w hw => ?_)
    (.get fun w hw => ?_)
  -- with an empty dictionary the key is not checked; then both go on alike
  all_goals
    rw [World.findEntry_shift, World.dropEntry_shift, World.missingKey_shift hw.plain]
    cases w.findEntry (args.headD .nil) entries with
    | some u => exact .stored a rfl u
    | none =>
      cases args[1]? with
      | some usual => exact .pure usual
      | none => exact .fail _

theorem isBlind_popItem : IsBlind s popItem := by
  intro v a entries args
  unfold popItem
  rw [List.getLast?_map]
  cases entries.getLast? with
  | none => exact .fail _
  | some e =>
    rw [← List.map_dropLast]
    exact .bind (.store a rfl) fun _ => .answer (.tuple [e.1, e.2])

theorem isBlind_clear : IsBlind s clear := fun v a _ args =>
  .bind (.readSame fun _ _ => refuseArguments_shift v "clear" args) fun _ => .stored a rfl .nil

theorem isBlind_copy : IsBlind s copy := fun v _ entries args =>
  .bind (.readSame fun _ _ => refuseArguments_shift v "copy" args) fun _ => .answer (.dict entries)

/-- A pair is a sequence of two items. -/
theorem pairOf_shift (index : Nat) (v : Value) :
    pairOf (w.shift s) index (v.shift s) = (pairOf w index v).map (shiftEntry s) := by
  simp only [pairOf, World.items?_shift]
  cases w.items? v with
  | none => rfl
  | some items =>
    rcases items with _ | ⟨k, _ | ⟨u, _ | ⟨_, _⟩⟩⟩ <;> simp [Except.map, shiftEntry]

/-- Entries are put one by one, each in the world that the one before has left. -/
theorem echoes_putPairs (a : Nat) : ∀ (items : List Value) (index : Nat) (entries : Entries),
    Echoes s id (putPairs a index entries items)
      (putPairs (s.address a) index (entries.map (shiftEntry s)) (items.map (Value.shift s)))
  | [], _, _ => .pure ()
  | item :: rest, i, entries => by
    refine .bind (f := shiftEntry s) (.read fun w _ => ?_) fun (k, v) => .get fun w _ => ?_
    · refine bind_eq_map_bind (pairOf_shift i item) fun (k, v) => ?_
      simp only [shiftEntry, World.checkKey_shift]
      exact bind_map fun _ => rfl
    · simp only [World.putEntry_shift]
      exact .bind (.store a rfl) fun _ => echoes_putPairs a rest (i + 1) _

/-- Entries that are put in one after another. -/
theorem foldl_putEntry_shift (others entries : Entries) :
    (others.map (shiftEntry s)).foldl (fun es e => (w.shift s).putEntry e.1 e.2 es)
        (entries.map (shiftEntry s)) =
      (others.foldl (fun es e => w.putEntry e.1 e.2 es) entries).map (shiftEntry s) := by
  induction others generalizing entries with
  | nil => rfl
  | cons e rest ih =>
    simp only [List.map_cons, List.foldl_cons, shiftEntry, World.putEntry_shift]
    exact ih _

theorem entries?_shift (v : Value) :
    entries? (w.shift s) (v.shift s) = (entries? w v).map (List.map (shiftEntry s)) := by
  cases v with
  | ref a =>
    simp only [entries?, Value.shift_ref, World.heap_shift, Heap.cell?_shift]
    cases w.heap.cell? a with
    | none => rfl
    | some c => cases c <;> rfl
  | _ => rfl

theorem isBlind_update : IsBlind s update := by
  intro v a entries args
  unfold update
  rw [expectArguments_shift]
  refine .bind (.liftSame _) fun _ => ?_
  cases args with
  | nil => exact .pure Value.nil
  | cons other rest =>
    refine .get fun w _ => ?_
    rw [entries?_shift, World.items_shift]
    -- the entries of a dictionary are put in at once, pairs one by one, until one is refused
    cases entries? w other with
    | some others =>
      simp only [Option.map_some, foldl_putEntry_shift]
      exact .stored a rfl .nil
    | none =>
      refine .bind (.lift rfl) fun items => ?_
      exact .bind (echoes_putPairs a items 0 entries) fun _ => .pure Value.nil

theorem forM_checkKey_shift (keys : List Value) :
    (keys.map (Value.shift s)).forM (w.shift s).checkKey = keys.forM w.checkKey := by
  induction keys with
  | nil => rfl
  | cons k rest ih =>
    change ((w.shift s).checkKey (k.shift s) >>= fun _ => _) = (w.checkKey k >>= fun _ => _)
    rw [World.checkKey_shift, ih]

theorem isBlind_fromKeys : IsBlind s fromKeys := by
  intro v a entries args
  unfold fromKeys
  rw [keyed_shift]
  generalize keyed args = given
  obtain ⟨source, value⟩ := given
  refine .bind (f := List.map (shiftEntry s)) (.read fun w _ => ?_) fun entries =>
    .answer (.dict entries)
  refine bind_eq_map_bind (World.items_shift source) fun keys => ?_
  rw [forM_checkKey_shift]
  refine bind_map fun _ => congrArg Except.ok ?_
  -- a list of keys with one value is a list of entries
  have hput := foldl_putEntry_shift (s := s) (w := w) (keys.map (·, value)) []
  rw [List.foldl_map, List.foldl_map, List.foldl_map] at hput
  rw [List.foldl_map]
  exact hput

theorem isBlind_table : ∀ entry ∈ table, IsBlind s entry.2.2 := by
  simp only [table, List.forall_mem_cons]
  exact ⟨isBlind_get, isBlind_setDefault, isBlind_popItem, isBlind_pop, isBlind_clear, isBlind_copy,
    isBlind_update, isBlind_fromKeys, by simp⟩

end DictMethod

end Treewalk
