import Mathlib.Data.List.ProdSigma
import Treewalk.Proofs.Shift.Basic

/-!
# Comparisons behind what was left

Equality and order of values do not change when something is put under the heap: they compare
containers item by item and objects by their addresses, which are moved in the same way. Both keep
the pairs of addresses that they are inside of, and there are no more such pairs than a comparison
has steps (`Treewalk.HasRoom`), so that its bound makes no difference.

What is looked up in a dictionary rests on equality, and what may be a key of one on the cells that
a tuple leads to.
-/

namespace Treewalk

variable {s : Shift} {h : Heap} {w : World}

/-- A pair of addresses behind what was left. -/
def Shift.pair (s : Shift) (p : Nat × Nat) : Nat × Nat := (s.address p.1, s.address p.2)

/-- Different pairs stay different, so a pair that was met is met again and no other one is. -/
theorem Shift.pair_injective (s : Shift) : Function.Injective s.pair := by
  intro p q h
  obtain ⟨hfirst, hsecond⟩ := Prod.mk.inj h
  exact Prod.ext (s.address_injective hfirst) (s.address_injective hsecond)

namespace Heap

/-- All pairs of addresses. -/
def pairs (h : Heap) : List (Nat × Nat) :=
  List.range h.cells.size ×ˢ List.range h.cells.size

/-- The bound of a comparison is above the number of pairs. -/
theorem length_pairs (h : Heap) : h.pairs.length < h.span := by
  rw [pairs, List.length_product, List.length_range, span]
  exact Nat.lt_succ_self _

/-- Behind what was left there are more cells, and so the bound is larger. -/
theorem span_le_span_shift : h.span ≤ (h.shift s).span :=
  Nat.succ_le_succ (Nat.mul_le_mul size_le_size_shift size_le_size_shift)

/-- Two cells that are there are a pair. -/
theorem mem_pairs {i j : Nat} {c d : Cell} (hi : h.cell? i = some c) (hj : h.cell? j = some d) :
    (i, j) ∈ h.pairs :=
  List.mem_product.mpr
    ⟨List.mem_range.mpr (lt_size_of_cell? hi), List.mem_range.mpr (lt_size_of_cell? hj)⟩

/-! ### Equality -/

/-- Where a pair was met before nothing is compared. -/
theorem not_and_congr {p x y : Bool} (h : p = false → x = y) : (!p && x) = (!p && y) := by
  cases p with
  | false => rw [h rfl]
  | true => rfl

/-- Lists are compared item by item, as far as their items are. -/
theorem equalItems_shift {equal equal' : Value → Value → Bool}
    (hequal : ∀ a b, equal' (a.shift s) (b.shift s) = equal a b) : ∀ as bs : List Value,
    equalItems equal' (as.map (Value.shift s)) (bs.map (Value.shift s)) = equalItems equal as bs
  | [], [] | [], _ :: _ | _ :: _, [] => rfl
  | a :: as, b :: bs => by
    simp only [List.map_cons, equalItems, Value.isSame_shift, hequal, equalItems_shift hequal as bs]

/-- Dictionaries are compared by looking each entry up, which rests on equality as well. -/
theorem equalEntries_shift {equal equal' : Value → Value → Bool}
    (hequal : ∀ a b, equal' (a.shift s) (b.shift s) = equal a b)
    (entries others : List (Value × Value)) :
    equalEntries equal' (entries.map (shiftEntry s)) (others.map (shiftEntry s)) =
      equalEntries equal entries others := by
  simp only [equalEntries, List.all_map, List.find?_map, Function.comp_def, shiftEntry,
    Value.isSame_shift, hequal]
  congr 1
  funext e
  cases others.find? fun o => o.1.isSame e.1 || equal o.1 e.1 with
  | none => rfl
  | some o => simp only [Option.map_some, shiftEntry, Value.isSame_shift, hequal]

/-- **Values are equal behind what was left if and only if they are equal.** -/
theorem equalIn_shift : ∀ (fuel fuel' : Nat) (path : List (Nat × Nat)) (a b : Value),
    HasRoom h.pairs path fuel → HasRoom h.pairs path fuel' →
    (h.shift s).equalIn fuel' (path.map s.pair) (a.shift s) (b.shift s) =
      h.equalIn fuel path a b := by
  intro fuel
  induction fuel with
  | zero =>
    intro _ _ _ _ hroom
    obtain ⟨n, hn⟩ := hroom.exists_succ
    cases hn
  | succ fuel ih =>
    intro fuel' path a b hroom hroom'
    obtain ⟨fuel', rfl⟩ := hroom'.exists_succ
    cases a with
    | ref i =>
      cases b with
      | ref j =>
        simp only [equalIn, Value.shift_ref, Value.number?, cell?_shift]
        have hcontains := contains_map_of_injective s.pair_injective path (i, j)
        have haddress : (s.address i == s.address j) = (i == j) := by
          simp only [Bool.beq_eq_decide_eq, s.address_injective.eq_iff]
        -- only two containers of one sort are compared by what is in them, all else by address
        cases hi : h.cell? i with
        | none => exact haddress
        | some c =>
          cases hj : h.cell? j with
          | none => cases c <;> exact haddress
          | some d =>
            -- inside of two containers that were not compared yet there is room for one step less
            have hinside (hnew : path.contains (i, j) = false) (u v : Value) :
                (h.shift s).equalIn fuel' (s.pair (i, j) :: path.map s.pair) (u.shift s)
                    (v.shift s) =
                  h.equalIn fuel ((i, j) :: path) u v := by
              have hmem := mem_pairs hi hj
              have hnew : (i, j) ∉ path := by simpa using hnew
              exact ih fuel' ((i, j) :: path) u v (hroom.cons hmem hnew) (hroom'.cons hmem hnew)
            simp only [Option.map_some]
            change (path.map s.pair).contains (s.address i, s.address j) = _ at hcontains
            cases c with
            | list xs =>
              cases d with
              | list ys =>
                simp only [Cell.shift, hcontains]
                exact not_and_congr fun hnew => equalItems_shift (hinside hnew) xs ys
              | _ => exact haddress
            | tuple xs =>
              cases d with
              | tuple ys =>
                simp only [Cell.shift, hcontains]
                exact not_and_congr fun hnew => equalItems_shift (hinside hnew) xs ys
              | _ => exact haddress
            | dict xs =>
              cases d with
              | dict ys =>
                simp only [Cell.shift, hcontains, List.length_map, Bool.and_assoc]
                exact not_and_congr fun hnew =>
                  congrArg (_ && ·) (equalEntries_shift (hinside hnew) xs ys)
              | _ => exact haddress
            | _ => cases d <;> exact haddress
      | _ => rfl
    | _ => cases b <;> rfl

/-- There is always room for a comparison of its own. -/
@[simp] theorem same_shift (a b : Value) : (h.shift s).same (a.shift s) (b.shift s) = h.same a b := by
  have hspan := span_le_span_shift (s := s) (h := h)
  have hpairs := h.length_pairs
  cases a with
  | ref i =>
    cases b with
    | ref j => exact equalIn_shift _ _ [] (.ref i) (.ref j) (.start (by omega)) (.start (by omega))
    | _ => rfl
  | _ => cases b <;> rfl

@[simp] theorem alike_shift (a b : Value) :
    (h.shift s).alike (a.shift s) (b.shift s) = h.alike a b := by
  simp only [alike, Value.isSame_shift, same_shift]

end Heap

/-! ### Order -/

namespace Comparison

/-- What cannot be ordered is refused by the names of both types. -/
theorem mishap_shift (c : Comparison) (a b : Value) :
    c.mishap (w.shift s) (a.shift s) (b.shift s) = c.mishap w a b := by
  simp only [mishap, World.typeName_shift]

/-- Lists are ordered by the first items that differ. -/
theorem items_shift (c : Comparison) {decide decide' : Value → Value → Except Mishap Bool}
    (hdecide : ∀ a b, decide' (a.shift s) (b.shift s) = decide a b) : ∀ as bs : List Value,
    items (w.shift s) c decide' (as.map (Value.shift s)) (bs.map (Value.shift s)) =
      items w c decide as bs
  | [], [] | [], _ :: _ | _ :: _, [] => rfl
  | a :: as, b :: bs => by
    simp only [List.map_cons, items, World.heap_shift, Heap.alike_shift, hdecide,
      items_shift c hdecide as bs]

/-- **Values compare behind what was left as they compare without it.** -/
theorem applyIn_shift (c : Comparison) : ∀ (fuel fuel' : Nat) (path : List (Nat × Nat))
    (a b : Value), HasRoom w.heap.pairs path fuel → HasRoom w.heap.pairs path fuel' →
    c.applyIn (w.shift s) fuel' (path.map s.pair) (a.shift s) (b.shift s) =
      c.applyIn w fuel path a b := by
  intro fuel
  induction fuel with
  | zero =>
    intro _ _ _ _ hroom
    obtain ⟨n, hn⟩ := hroom.exists_succ
    cases hn
  | succ fuel ih =>
    intro fuel' path a b hroom hroom'
    obtain ⟨fuel', rfl⟩ := hroom'.exists_succ
    have hmishap := c.mishap_shift (s := s) (w := w) a b
    cases a with
    | ref i =>
      cases b with
      | ref j =>
        simp only [applyIn, Value.shift_ref, Value.number?, World.heap_shift, Heap.cell?_shift]
        have hcontains := contains_map_of_injective s.pair_injective path (i, j)
        change (path.map s.pair).contains (s.address i, s.address j) = _ at hcontains
        cases hi : w.heap.cell? i with
        | none => exact congrArg Except.error hmishap
        | some left =>
          cases hj : w.heap.cell? j with
          | none => cases left <;> exact congrArg Except.error hmishap
          | some right =>
            -- lists and tuples are ordered in the same way, if both sides are of one sort
            have hsteps (xs ys : List Value) :
                (if (path.map s.pair).contains (s.address i, s.address j) then .ok false
                  else items (w.shift s) c (applyIn (w.shift s) c fuel'
                    ((s.address i, s.address j) :: path.map s.pair))
                    (xs.map (Value.shift s)) (ys.map (Value.shift s))) =
                if path.contains (i, j) then .ok false
                  else items w c (applyIn w c fuel ((i, j) :: path)) xs ys := by
              rw [hcontains]
              split
              · rfl
              · next hnew =>
                have hmem := Heap.mem_pairs hi hj
                have hnew : (i, j) ∉ path := by simpa using hnew
                exact items_shift c (fun u v => ih fuel' ((i, j) :: path) u v
                  (hroom.cons hmem hnew) (hroom'.cons hmem hnew)) xs ys
            cases left with
            | list xs =>
              cases right with
              | list ys => exact hsteps xs ys
              | _ => exact congrArg Except.error hmishap
            | tuple xs =>
              cases right with
              | tuple ys => exact hsteps xs ys
              | _ => exact congrArg Except.error hmishap
            | _ => cases right <;> exact congrArg Except.error hmishap
      | _ => exact congrArg Except.error hmishap
    | _ => cases b <;> first | exact congrArg Except.error hmishap | rfl

@[simp] theorem test_shift (c : Comparison) (a b : Value) :
    c.test (w.shift s) (a.shift s) (b.shift s) = c.test w a b := by
  have hspan := Heap.span_le_span_shift (s := s) (h := w.heap)
  have hpairs := w.heap.length_pairs
  exact c.applyIn_shift _ _ [] a b (.start (by omega)) (.start (by simp; omega))

end Comparison

/-! ### Dictionaries -/

namespace World

/-- What keeps a value from being a key is found in the cells that it leads to. -/
theorem keyFault_shift : ∀ (fuel fuel' : Nat) (path : List Nat) (v : Value),
    HasRoom (List.range w.heap.cells.size) path fuel →
    HasRoom (List.range w.heap.cells.size) path fuel' →
    (w.shift s).keyFault fuel' (path.map s.address) (v.shift s) = w.keyFault fuel path v := by
  intro fuel
  induction fuel with
  | zero =>
    intro _ _ _ hroom
    obtain ⟨n, hn⟩ := hroom.exists_succ
    cases hn
  | succ fuel ih =>
    intro fuel' path v hroom hroom'
    obtain ⟨fuel', rfl⟩ := hroom'.exists_succ
    cases v with
    | ref a =>
      simp only [keyFault, Value.shift_ref, heap_shift, Heap.cell?_shift]
      cases hcell : w.heap.cell? a with
      | none => rfl
      | some c =>
        -- a tuple is a key if its items are; all other cells are settled at once
        cases c with
        | tuple items =>
          simp only [Option.map_some, Cell.shift,
            contains_map_of_injective s.address_injective path a]
          split
          · rfl
          · next hnew =>
            have hmem : a ∈ List.range w.heap.cells.size :=
              List.mem_range.mpr (Heap.lt_size_of_cell? hcell)
            have hnew : a ∉ path := by simpa using hnew
            rw [List.findSome?_map]
            congr 1
            funext u
            exact ih fuel' (a :: path) u (hroom.cons hmem hnew) (hroom'.cons hmem hnew)
        | _ => rfl
    | _ => rfl

@[simp] theorem checkKey_shift (v : Value) : (w.shift s).checkKey (v.shift s) = w.checkKey v := by
  have hsize := Heap.size_le_size_shift (s := s) (h := w.heap)
  have hroom : HasRoom (List.range w.heap.cells.size) [] (w.heap.cells.size + 1) :=
    .start (by simp)
  have hroom' : HasRoom (List.range w.heap.cells.size) [] ((w.shift s).heap.cells.size + 1) :=
    .start (by simp; omega)
  have hfault := keyFault_shift (s := s) _ _ [] v hroom hroom'
  rw [List.map_nil] at hfault
  rw [checkKey, hfault, checkKey]

/-- An entry is looked up by its key, and its value is moved. -/
@[simp] theorem findEntry_shift (key : Value) (entries : List (Value × Value)) :
    (w.shift s).findEntry (key.shift s) (entries.map (shiftEntry s)) =
      (w.findEntry key entries).map (Value.shift s) := by
  simp only [findEntry, List.find?_map, Function.comp_def, shiftEntry, heap_shift, Heap.alike_shift,
    Option.map_map]

/-- An entry is put in the place of the one with its key, or behind all others. -/
@[simp] theorem putEntry_shift (key value : Value) : ∀ entries : List (Value × Value),
    (w.shift s).putEntry (key.shift s) (value.shift s) (entries.map (shiftEntry s)) =
      (w.putEntry key value entries).map (shiftEntry s)
  | [] => rfl
  | (k, v) :: rest => by
    simp only [List.map_cons, shiftEntry, putEntry, heap_shift, Heap.alike_shift]
    split
    · rfl
    · rw [putEntry_shift key value rest]
      rfl

@[simp] theorem dropEntry_shift (key : Value) (entries : List (Value × Value)) :
    (w.shift s).dropEntry (key.shift s) (entries.map (shiftEntry s)) =
      (w.dropEntry key entries).map (shiftEntry s) := by
  simp only [dropEntry, List.filter_map, Function.comp_def, shiftEntry, heap_shift,
    Heap.alike_shift]

end World

end Treewalk
