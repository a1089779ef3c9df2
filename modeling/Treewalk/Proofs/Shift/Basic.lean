import Mathlib.Data.List.Perm.Subperm
import Treewalk.Host.Bridges

/-!
# Worlds with something left in them

What a host leaves behind after a run is a heap with cells in it, stamps that are given out, and
texts that were written. A run that begins then finds its own cells behind those, and its own stamps
above those; otherwise nothing has changed. A `Treewalk.Shift` is what was left, and
`Treewalk.World.shift` puts it under a world: addresses and stamps are moved up by what is there
already (`Treewalk.Value.shift`).

No question that a program can ask tells a world from its shift. This is shown here for what is read
off a single value, and in the modules that follow for comparisons, operators, methods and routines:
what a shifted world answers is the shift of the answer. A text of a value is the same one, as long
as the heap holds only containers (`Treewalk.Heap.IsPlain`), since then the bound on the depth of
pictures is never met.
-/

namespace Treewalk

/-- What was left by earlier runs: the cells of the heap, the number of stamps given out, the texts
that were written, and the ticks counted. -/
structure Shift where
  cells : Array Cell
  stamps : Nat
  output : Array String
  ticks : Nat

/-! ### Room on a path

Functions that follow references keep the path that they came by, and turn back where it would
close. So they never go deeper than there are cells, and what they give does not depend on the
bound. -/

variable {α : Type}

/-- **There is room for a longer path** of pairwise different members of a list, in what is left of
a bound. -/
structure HasRoom (cells path : List α) (fuel : Nat) : Prop where
  nodup : path.Nodup
  subset : path ⊆ cells
  room : cells.length < fuel + path.length

namespace HasRoom

variable {cells path : List α} {fuel : Nat} {a : α}

/-- At the beginning of a path there is room for all. -/
theorem start (h : cells.length < fuel) : HasRoom cells [] fuel :=
  ⟨.nil, List.nil_subset _, h⟩

/-- A path is no longer than there are members, so the bound is not used up. -/
theorem exists_succ (h : HasRoom cells path fuel) : ∃ n, fuel = n + 1 := by
  have hlength := (h.nodup.subperm h.subset).length_le
  have hroom := h.room
  exact ⟨fuel - 1, by omega⟩

/-- A step to something new takes up the room for it. -/
theorem cons (h : HasRoom cells path (fuel + 1)) (ha : a ∈ cells) (hnew : a ∉ path) :
    HasRoom cells (a :: path) fuel := by
  refine ⟨List.nodup_cons.mpr ⟨hnew, h.nodup⟩, List.cons_subset.mpr ⟨ha, h.subset⟩, ?_⟩
  have hroom := h.room
  rw [List.length_cons]
  omega

end HasRoom

/-- Whether a path meets something does not change when everything gets another name. -/
theorem contains_map_of_injective {β : Type} [BEq α] [LawfulBEq α] [BEq β] [LawfulBEq β] {f : α → β}
    (hf : Function.Injective f) (path : List α) (a : α) :
    (path.map f).contains (f a) = path.contains a := by
  rw [Bool.eq_iff_iff, List.contains_iff_mem, List.contains_iff_mem, List.mem_map_of_injective hf]

/-! ### Shifted values and worlds -/

namespace Shift

/-- The stamp of a double behind what was left: only odd ones were given out by a heap. -/
def stamp (s : Shift) (n : Nat) : Nat := if n % 2 = 1 then n + 2 * s.stamps else n

/-- The address of a cell behind what was left. -/
def address (s : Shift) (a : Nat) : Nat := s.cells.size + a

theorem stamp_injective (s : Shift) : Function.Injective s.stamp := by
  intro m n h
  unfold stamp at h
  split at h <;> split at h <;> omega

theorem address_injective (s : Shift) : Function.Injective s.address :=
  fun _ _ h => Nat.add_left_cancel h

end Shift

/-- A value behind what was left. -/
def Value.shift (s : Shift) : Value → Value
  | .float x stamp => .float x (s.stamp stamp)
  | .str text fresh => .str text (fresh.map (s.stamps + ·))
  | .ref a => .ref (s.address a)
  | v => v

/-- An entry of a dictionary behind what was left. -/
def shiftEntry (s : Shift) (e : Value × Value) : Value × Value := (e.1.shift s, e.2.shift s)

/-- A cell behind what was left. -/
def Cell.shift (s : Shift) : Cell → Cell
  | .list items => .list (items.map (Value.shift s))
  | .tuple items => .tuple (items.map (Value.shift s))
  | .dict entries => .dict (entries.map (shiftEntry s))
  | .counter v => .counter (v.shift s)
  | .vector v => .vector (v.shift s)
  | .grumpy => .grumpy

/-- A heap behind what was left. -/
def Heap.shift (s : Shift) (h : Heap) : Heap :=
  ⟨s.cells ++ h.cells.map (Cell.shift s), s.stamps + h.stamps⟩

/-- **A world behind what was left.** -/
def World.shift (s : Shift) (w : World) : World :=
  { w with
    heap := w.heap.shift s
    output := s.output ++ w.output
    ticks := s.ticks + w.ticks }

/-- An answer behind what was left. -/
def Answer.shift (s : Shift) : Answer → Answer
  | .known v => .known (v.shift s)
  | .float x => .float x
  | .list items => .list (items.map (Value.shift s))
  | .tuple items => .tuple (items.map (Value.shift s))
  | .dict entries => .dict (entries.map (shiftEntry s))

/-- A sequence behind what was left. -/
def Sequence.shift (s : Shift) : Sequence → Sequence
  | .text t => .text t
  | .octets bs => .octets bs
  | .list items => .list (items.map (Value.shift s))
  | .tuple items => .tuple (items.map (Value.shift s))

variable {s : Shift} {h : Heap} {w : World}

/-! ### Scalars -/

namespace Value

@[simp] theorem shift_nil : Value.nil.shift s = .nil := rfl

@[simp] theorem shift_bool (b : Bool) : (Value.bool b).shift s = .bool b := rfl

@[simp] theorem shift_int (n : Int) : (Value.int n).shift s = .int n := rfl

@[simp] theorem shift_float (x : Float) (n : Nat) :
    (Value.float x n).shift s = .float x (s.stamp n) := rfl

@[simp] theorem shift_str (t : String) (fresh : Option Nat) :
    (Value.str t fresh).shift s = .str t (fresh.map (s.stamps + ·)) := rfl

@[simp] theorem shift_text (t : String) : (Value.text t).shift s = .text t := rfl

@[simp] theorem shift_chars (cs : List Char) : (Value.chars cs).shift s = .chars cs := rfl

@[simp] theorem shift_bytes (bs : List UInt8) : (Value.bytes bs).shift s = .bytes bs := rfl

/-- Only references and the stamps of literals are moved. -/
@[simp] theorem shift_ref (a : Nat) : (Value.ref a).shift s = .ref (s.address a) := rfl

@[simp] theorem shift_environment : Value.environment.shift s = .environment := rfl

@[simp] theorem number?_shift (v : Value) : (v.shift s).number? = v.number? := by
  cases v <;> rfl

@[simp] theorem int?_shift (v : Value) : (v.shift s).int? = v.int? := by
  cases v <;> rfl

@[simp] theorem headD_map_shift (vs : List Value) :
    (vs.map (Value.shift s)).headD .nil = (vs.headD .nil).shift s := by
  cases vs <;> rfl

/-- A number that was computed has a stamp of its own. -/
theorem computed_shift (x : Float) (n : Nat) :
    computed x (s.stamps + n) = (computed x n).shift s := by
  unfold computed
  cases x.isNaN with
  | false => rfl
  | true =>
    have hodd : s.stamp (2 * n + 1) = 2 * (s.stamps + n) + 1 := by
      rw [Shift.stamp, if_pos (by omega)]
      omega
    simp [hodd]

/-- Two values are one object if they are one behind what was left. -/
@[simp] theorem isSame_shift (u v : Value) : (u.shift s).isSame (v.shift s) = u.isSame v := by
  cases u with
  | float x m =>
    cases v with
    | float y n => simp [isSame, s.stamp_injective.eq_iff, Bool.beq_eq_decide_eq]
    | _ => rfl
  | str t fresh =>
    cases v with
    | str t' fresh' =>
      have hfresh : fresh.map (s.stamps + ·) = fresh'.map (s.stamps + ·) ↔ fresh = fresh' :=
        (Option.map_injective fun _ _ h => Nat.add_left_cancel h).eq_iff
      simp [isSame, hfresh, Bool.beq_eq_decide_eq]
    | _ => rfl
  | ref a =>
    cases v with
    | ref b => simp [isSame, s.address_injective.eq_iff, Bool.beq_eq_decide_eq]
    | _ => rfl
  | _ => cases v <;> rfl

end Value

theorem Literal.toValue_shift (l : Literal) : l.toValue.shift s = l.toValue := by
  cases l with
  | float x mark =>
    -- the mark of a literal is even, and no heap gives out such a stamp
    have heven : s.stamp (2 * mark) = 2 * mark := by
      rw [Shift.stamp, if_neg (by omega)]
    simp [toValue, heven]
  | _ => rfl

/-! ### Cells -/

namespace Heap

/-- What a reference leads to is where the reference has moved to. -/
@[simp] theorem cell?_shift (a : Nat) :
    (h.shift s).cell? (s.address a) = (h.cell? a).map (Cell.shift s) := by
  simp only [cell?, shift, Shift.address]
  rw [Array.getElem?_append_right (Nat.le_add_right _ _), Nat.add_sub_cancel_left,
    Array.getElem?_map]

/-- A new cell comes behind all others, whatever they are. -/
theorem alloc_shift (c : Cell) :
    (h.shift s).alloc (c.shift s) = (s.address (h.alloc c).1, (h.alloc c).2.shift s) := by
  simp [alloc, shift, Shift.address, Array.push_append]

/-- A cell is changed at the place to which it was moved. -/
theorem store_shift (a : Nat) (c : Cell) :
    (h.shift s).store (s.address a) (c.shift s) = (h.store a c).shift s := by
  have hstore : (s.cells ++ h.cells.map (Cell.shift s)).setIfInBounds (s.address a) (c.shift s) =
      s.cells ++ (h.cells.map (Cell.shift s)).setIfInBounds a (c.shift s) := by
    rw [Shift.address, Array.setIfInBounds_append_right (Nat.le_add_right _ _),
      Nat.add_sub_cancel_left]
  simp [store, shift, hstore]

end Heap

@[simp] theorem Cell.typeName_shift (c : Cell) : (c.shift s).typeName = c.typeName := by
  cases c <;> rfl

namespace World

@[simp] theorem heap_shift : (w.shift s).heap = w.heap.shift s := rfl

@[simp] theorem typeName_shift (v : Value) : (w.shift s).typeName (v.shift s) = w.typeName v := by
  cases v with
  | ref a =>
    simp only [typeName, Value.typeName, Value.shift_ref, heap_shift, Heap.cell?_shift]
    cases w.heap.cell? a with
    | none => rfl
    | some c => exact c.typeName_shift
  | str t fresh => cases fresh <;> rfl
  | _ => rfl

@[simp] theorem found_shift (v : Value) : (w.shift s).found (v.shift s) = w.found v := by
  cases v with
  | nil => rfl
  | _ => exact typeName_shift _

/-- A container is true if it has anything in it. -/
@[simp] theorem truthy_shift (v : Value) : (w.shift s).truthy (v.shift s) = w.truthy v := by
  cases v with
  | ref a =>
    simp only [truthy, Value.shift_ref, heap_shift, Heap.cell?_shift]
    cases w.heap.cell? a with
    | none => rfl
    | some c => cases c <;> simp [Cell.shift]
  | _ => rfl

/-- A sequence is one behind what was left. -/
@[simp] theorem sequence?_shift (v : Value) :
    (w.shift s).sequence? (v.shift s) = (w.sequence? v).map (Sequence.shift s) := by
  cases v with
  | ref a =>
    simp only [sequence?, Value.shift_ref, heap_shift, Heap.cell?_shift]
    cases w.heap.cell? a with
    | none => rfl
    | some c => cases c <;> rfl
  | _ => rfl

@[simp] theorem items?_shift (v : Value) :
    (w.shift s).items? (v.shift s) = (w.items? v).map (List.map (Value.shift s)) := by
  cases v with
  | ref a =>
    cases hcell : w.heap.cell? a with
    | none => simp [items?, sequence?, hcell]
    | some c =>
      cases c <;>
        simp [items?, sequence?, hcell, Cell.shift, shiftEntry, Function.comp_def]
  | str t fresh => simp [items?, sequence?, Function.comp_def]
  | bytes bs => simp [items?, sequence?, Function.comp_def]
  | _ => rfl

theorem bind_items?_shift (v? : Option Value) :
    (v?.map (Value.shift s)).bind (w.shift s).items? =
      (v?.bind w.items?).map (List.map (Value.shift s)) := by
  cases v? with
  | none => rfl
  | some v => exact items?_shift v

@[simp] theorem items_shift (v : Value) :
    (w.shift s).items (v.shift s) = (w.items v).map (List.map (Value.shift s)) := by
  simp only [items, items?_shift, typeName_shift]
  cases w.items? v <;> rfl

@[simp] theorem length_shift (v : Value) : (w.shift s).length (v.shift s) = w.length v := by
  simp only [length, items?_shift, typeName_shift]
  cases w.items? v with
  | none => rfl
  | some items => simp

@[simp] theorem integer_shift (v : Value) : (w.shift s).integer (v.shift s) = w.integer v := by
  simp only [integer, Value.int?_shift, typeName_shift]

@[simp] theorem size_shift (v : Value) : (w.shift s).size (v.shift s) = w.size v := by
  simp only [size, integer_shift]

@[simp] theorem smallInteger_shift (v : Value) :
    (w.shift s).smallInteger (v.shift s) = w.smallInteger v := by
  simp only [smallInteger, integer_shift]

end World

/-! ### Pictures -/

/-- Whether a cell holds a container. -/
def Cell.isContainer : Cell → Bool
  | .list _ | .tuple _ | .dict _ => true
  | _ => false

namespace Heap

/-- **A plain heap** holds containers only. -/
def IsPlain (h : Heap) : Prop := ∀ a c, h.cell? a = some c → c.isContainer = true

theorem lt_size_of_cell? {a : Nat} {c : Cell} (hc : h.cell? a = some c) : a < h.cells.size :=
  (Array.getElem?_eq_some_iff.mp hc).1

/-- The picture of a value is the same behind what was left. -/
theorem pictureIn_shift (hplain : h.IsPlain) (env : String) : ∀ (fuel fuel' : Nat)
    (path : List Nat) (v : Value), HasRoom (List.range h.cells.size) path fuel →
    HasRoom (List.range h.cells.size) path fuel' →
    (h.shift s).pictureIn env fuel' (path.map s.address) (v.shift s) =
      h.pictureIn env fuel path v := by
  -- the bounds of the two heaps differ: what the induction carries is room on the path in both
  intro fuel
  induction fuel with
  | zero =>
    intro _ _ _ hroom
    obtain ⟨n, hn⟩ := hroom.exists_succ
    cases hn
  | succ fuel ih =>
    intro fuel' path v hroom hroom'
    obtain ⟨fuel', rfl⟩ := hroom'.exists_succ
    cases v with
    | ref a =>
      simp only [pictureIn, Value.shift_ref, cell?_shift]
      cases hcell : h.cell? a with
      | none => rfl
      | some c =>
        have hcontains := contains_map_of_injective s.address_injective path a
        -- inside a container that is not on the path there is room for one step less
        have hinside (hnew : path.contains a = false) (u : Value) :
            (h.shift s).pictureIn env fuel' (s.address a :: path.map s.address) (u.shift s) =
              h.pictureIn env fuel (a :: path) u := by
          have hmem : a ∈ List.range h.cells.size := List.mem_range.mpr (lt_size_of_cell? hcell)
          have hnew : a ∉ path := by simpa using hnew
          exact ih fuel' (a :: path) u (hroom.cons hmem hnew) (hroom'.cons hmem hnew)
        cases hnew : path.contains a with
        | true =>
          rw [hnew] at hcontains
          cases c with
          | list | tuple | dict => simp only [Option.map_some, Cell.shift, hcontains, if_true]
          | counter | vector | grumpy => cases hplain a _ hcell
        | false =>
          rw [hnew] at hcontains
          cases c with
          | list | tuple | dict =>
            simp only [Option.map_some, Cell.shift, hcontains, Bool.false_eq_true, if_false,
              List.map_map, Function.comp_def, shiftEntry, hinside hnew]
          | counter | vector | grumpy => cases hplain a _ hcell
    | _ => rfl

theorem size_lt_depth (h : Heap) : h.cells.size < h.depth :=
  Nat.lt_of_lt_of_le (Nat.lt_succ_self _) (Nat.le_mul_of_pos_right _ (Nat.succ_pos _))

theorem size_le_size_shift : h.cells.size ≤ (h.shift s).cells.size := by
  rw [shift, Array.size_append, Array.size_map]
  exact Nat.le_add_left _ _

/-- What can be seen of a value are cells and scalars, none of which tells where it lies. -/
theorem picture_shift (hplain : h.IsPlain) (env : String) (v : Value) :
    (h.shift s).picture env (v.shift s) = h.picture env v := by
  have hdepth := h.size_lt_depth
  have hdepth' := (h.shift s).size_lt_depth
  have hsize := size_le_size_shift (s := s) (h := h)
  refine pictureIn_shift hplain env _ _ [] v (.start ?_) (.start ?_)
  · rw [List.length_range]
    omega
  · rw [List.length_range]
    omega

end Heap

namespace World

theorem picture_shift (hw : w.heap.IsPlain) (v : Value) :
    (w.shift s).picture (v.shift s) = w.picture v :=
  Heap.picture_shift hw _ v

/-- So a value has the text that it had. -/
theorem shown_shift (hw : w.heap.IsPlain) (v : Value) :
    (w.shift s).shown (v.shift s) = w.shown v := by
  simp only [shown, picture_shift hw]

theorem display_shift (hw : w.heap.IsPlain) (v : Value) :
    (w.shift s).display (v.shift s) = w.display v := by
  have hshown := shown_shift (s := s) hw v
  cases v with
  | str t fresh => rfl
  | _ => exact hshown

theorem spoken_shift (hw : w.heap.IsPlain) (v : Value) :
    (w.shift s).spoken (v.shift s) = w.spoken v := by
  have hdisplay := display_shift (s := s) hw v
  cases v with
  | nil => rfl
  | bool b => rfl
  | _ => exact hdisplay

theorem printed_shift (hw : w.heap.IsPlain) (v : Value) :
    (w.shift s).printed (v.shift s) = w.printed v := by
  simp only [printed, picture_shift hw]

theorem missingKey_shift (hw : w.heap.IsPlain) (v : Value) :
    (w.shift s).missingKey (v.shift s) = w.missingKey v := by
  simp only [missingKey, shown_shift hw]

end World

end Treewalk
