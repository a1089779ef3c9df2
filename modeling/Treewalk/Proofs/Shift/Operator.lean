import Treewalk.Proofs.Shift.Compare

/-!
# Operators behind what was left

An operator only reads the heap, so it is enough that it reads the same things behind what was left:
what it answers is then moved up with everything else. Sequences are joined, repeated and
subscripted item by item, and numbers do not lie on the heap at all.

Templates are the long part. What fills them are texts of values, which are the same in a plain heap
(`Treewalk.World.display_shift`); the arguments are taken one after another, so that the ones left
are moved as well (`Treewalk.Template.Supply.shift`).
-/

namespace Treewalk

variable {s : Shift} {w : World}

section Steps

variable {ε α α' β β' : Type} {f : α → α'} {g : β → β'} {x : Except ε α}

/-- One step after another, of which the second goes on from what the first gave, moved up. -/
theorem bind_eq_map_bind {x' : Except ε α'} {y : α → Except ε β} {y' : α' → Except ε β'}
    (hx : x' = x.map f) (hy : ∀ a, y' (f a) = (y a).map g) : (x' >>= y') = (x >>= y).map g := by
  subst hx
  cases x with
  | error e => rfl
  | ok a => exact hy a

/-- One step after another, of which the first gives the same. -/
theorem bind_map {y : α → Except ε β} {y' : α → Except ε β'} (hy : ∀ a, y' a = (y a).map g) :
    (x >>= y') = (x >>= y).map g := by
  cases x with
  | error e => rfl
  | ok a => exact hy a

/-- One step after another, where in the end nothing is moved. -/
theorem bind_eq_bind {x' : Except ε α'} {y : α → Except ε β} {y' : α' → Except ε β}
    (hx : x' = x.map f) (hy : ∀ a, y' (f a) = y a) : (x' >>= y') = (x >>= y) := by
  subst hx
  cases x with
  | error e => rfl
  | ok a => exact hy a

end Steps

/-- One step for each of some values, where nothing is moved in the end. -/
theorem mapM_map_shift {ε α : Type} {f f' : Value → Except ε α} (hf : ∀ v, f' (v.shift s) = f v)
    (vs : List Value) : (vs.map (Value.shift s)).mapM f' = vs.mapM f := by
  induction vs with
  | nil => rfl
  | cons v rest ih => simp only [List.map_cons, List.mapM_cons, hf, ih]

/-! ### Sequences -/

namespace Answer

/-- The parts of an answer are moved where they are values. Scalars are none that lie on the
heap. -/
@[simp] theorem shift_known (v : Value) : (Answer.known v).shift s = .known (v.shift s) := rfl

@[simp] theorem shift_bool (b : Bool) : (Answer.bool b).shift s = .bool b := rfl

@[simp] theorem shift_int (n : Int) : (Answer.int n).shift s = .int n := rfl

@[simp] theorem shift_text (t : String) : (Answer.text t).shift s = .text t := rfl

@[simp] theorem shift_chars (cs : List Char) : (Answer.chars cs).shift s = .chars cs := rfl

@[simp] theorem shift_float (x : Float) : (Answer.float x).shift s = .float x := rfl

@[simp] theorem shift_list (items : List Value) :
    (Answer.list items).shift s = .list (items.map (Value.shift s)) := rfl

@[simp] theorem shift_tuple (items : List Value) :
    (Answer.tuple items).shift s = .tuple (items.map (Value.shift s)) := rfl

@[simp] theorem shift_dict (entries : List (Value × Value)) :
    (Answer.dict entries).shift s = .dict (entries.map (shiftEntry s)) := rfl

@[simp] theorem shift_texts (ts : List (List Char)) : (Answer.texts ts).shift s = .texts ts := by
  simp [texts, shift, Function.comp_def]

end Answer

namespace Sequence

/-- Items are repeated in the order in which they stand. -/
theorem times_map {α β : Type} (f : α → β) (n : Nat) (xs : List α) :
    repeated.times n (xs.map f) = (repeated.times n xs).map f := by
  unfold repeated.times
  rw [List.isEmpty_map]
  split
  · rfl
  · rw [List.map_flatten, List.map_replicate]

theorem repeated_shift (n : Nat) (q : Sequence) :
    (q.shift s).repeated n = (q.repeated n).shift s := by
  cases q with
  | text | octets => rfl
  | list | tuple => simp only [shift, repeated, times_map, Answer.shift]

@[simp] theorem length_shift (q : Sequence) : (q.shift s).length = q.length := by
  cases q with
  | text | octets => rfl
  | list | tuple => exact List.length_map ..

@[simp] theorem outOfRange_shift (q : Sequence) : (q.shift s).outOfRange = q.outOfRange := by
  cases q <;> rfl

@[simp] theorem badIndex_shift (q : Sequence) (typeName : String) :
    (q.shift s).badIndex typeName = q.badIndex typeName := by
  cases q <;> rfl

/-- The item at a place is the same item, moved. -/
@[simp] theorem item?_shift (q : Sequence) (i : Nat) :
    (q.shift s).item? i = (q.item? i).map (Answer.shift s) := by
  cases q with
  | text t => simp [shift, item?, Function.comp_def]
  | octets bs => simp [shift, item?, Function.comp_def]
  | list items | tuple items => simp [shift, item?, Function.comp_def]

/-- A sequence is subscripted by an integer, from either end. -/
theorem subscript_shift (q : Sequence) (i : Value) :
    (q.shift s).subscript (w.shift s) (i.shift s) = (q.subscript w i).map (Answer.shift s) := by
  simp only [subscript, Value.int?_shift, World.typeName_shift, badIndex_shift, length_shift,
    outOfRange_shift, item?_shift]
  cases i.int? with
  | none => rfl
  | some n =>
    dsimp only
    generalize (if n < 0 then n + (q.length : Int) else n) = position
    split
    · rfl
    · split
      · rfl
      · cases q.item? position.toNat <;> rfl

end Sequence

namespace World

/-- Two sequences of one sort are joined to a new one. -/
theorem concat_shift (q : Sequence) (v : Value) :
    (w.shift s).concat (q.shift s) (v.shift s) = (w.concat q v).map (Answer.shift s) := by
  simp only [concat, sequence?_shift, typeName_shift]
  cases q with
  | text | octets | list | tuple =>
    cases w.sequence? v with
    | none => rfl
    | some r => cases r <;> simp [Sequence.shift, Except.map, Sequence.title]

/-- A sequence is repeated as often as an integer says. -/
theorem repeatBy_shift (q : Sequence) (count : Value) :
    (w.shift s).repeatBy (q.shift s) (count.shift s) =
      (w.repeatBy q count).map (Answer.shift s) := by
  simp only [repeatBy, Value.int?_shift, typeName_shift, Sequence.repeated_shift]
  cases count.int? with
  | none => rfl
  | some n =>
    dsimp only
    split <;> rfl

end World

/-! ### Numbers -/

namespace Value

/-- What arithmetic gives does not lie on the heap. -/
theorem map_arithmetic (op : Arithmetic) (x y : Number) :
    (arithmetic op x y).map (Answer.shift s) = arithmetic op x y := by
  have hint (m n : Int) : (intArithmetic op m n).map (Answer.shift s) = intArithmetic op m n := by
    cases op with
    | add | sub | mul => rfl
    | div => exact (bind_map fun _ => rfl).symm
    | mod =>
      simp only [intArithmetic]
      split <;> rfl
    | pow =>
      simp only [intArithmetic]
      split
      · rfl
      · exact (bind_map fun _ => bind_map fun _ => bind_map fun _ => rfl).symm
  have hfloat (u v : Float) :
      (floatArithmetic op u v).map (Answer.shift s) = floatArithmetic op u v := by
    cases op with
    | add | sub | mul => rfl
    | div =>
      simp only [floatArithmetic]
      split <;> rfl
    | mod => exact (bind_map fun _ => rfl).symm
    | pow => exact (bind_map fun _ => rfl).symm
  have hmixed : (do floatArithmetic op (← x.toFloat) (← y.toFloat)).map (Answer.shift s) =
      (do floatArithmetic op (← x.toFloat) (← y.toFloat)) :=
    (bind_map fun u => bind_map fun v => (hfloat u v).symm).symm
  cases x with
  | int m =>
    cases y with
    | int n => exact hint m n
    | float v => exact hmixed
  | float u => exact hmixed

/-- Operands that do not fit are refused by the names of their types. -/
theorem Arithmetic.mishap_shift (op : Arithmetic) (a b : Value) :
    op.mishap (w.shift s) (a.shift s) (b.shift s) = op.mishap w a b := by
  simp only [mishap, World.typeName_shift]

end Value

/-! ### Templates -/

namespace Template

/-- A value is formatted as its text, unless a specification says otherwise. -/
theorem formatted_shift (hw : w.heap.IsPlain) (v : Value) (spec : List Char) :
    formatted (w.shift s) (v.shift s) spec = formatted w v spec := by
  simp only [formatted, World.typeName_shift, World.display_shift hw, Value.int?_shift]
  split
  · rfl
  · cases v <;> rfl

/-- The arguments of a template behind what was left. -/
def Supply.shift (s : Shift) (supply : Supply) : Supply :=
  ⟨supply.left.map (Value.shift s), supply.keyed.map (Value.shift s)⟩

/-- The argument that is taken is the next of those left, and the others stay behind it. -/
theorem Supply.next_shift (supply : Supply) :
    (supply.shift s).next = supply.next.map fun r => (r.1.shift s, r.2.shift s) := by
  obtain ⟨left, keyed⟩ := supply
  cases left <;> rfl

/-- A key is looked up in a dictionary, and in a sequence as a subscript. -/
theorem keyedValue_shift (hw : w.heap.IsPlain) (holder key : Value) :
    keyedValue (w.shift s) (holder.shift s) (key.shift s) =
      (keyedValue w holder key).map (Value.shift s) := by
  have hmissing := World.missingKey_shift (s := s) hw key
  simp only [keyedValue, World.sequence?_shift]
  cases hseq : w.sequence? holder with
  | some q =>
    refine bind_eq_map_bind (q.subscript_shift key) fun a => ?_
    cases a <;> rfl
  | none =>
    cases holder with
    | ref a =>
      simp only [Option.map_none, Value.shift_ref, World.heap_shift, Heap.cell?_shift]
      cases w.heap.cell? a with
      | none => exact congrArg Except.error hmissing
      | some c =>
        cases c with
        | dict entries =>
          simp only [Option.map_some, Cell.shift, World.findEntry_shift]
          cases w.findEntry key entries with
          | some v => rfl
          | none => exact congrArg Except.error hmissing
        | _ => exact congrArg Except.error hmissing
    | _ => exact congrArg Except.error hmissing

/-- A number in a template may be taken from the arguments. -/
theorem takeAmount_shift (limit : Limit) (text : List Char) (supply : Supply) :
    takeAmount limit text (supply.shift s) =
      (takeAmount limit text supply).map fun r => (r.1, r.2.1, r.2.2.shift s) := by
  unfold takeAmount
  split
  · refine bind_eq_map_bind supply.next_shift fun r => ?_
    simp only [Value.int?_shift]
    cases r.1.int? with
    | none => rfl
    | some n =>
      dsimp only
      split <;> rfl
  · dsimp only
    split <;> rfl

/-- A number is written by a conversion for numbers; anything else is refused by its type. -/
theorem percentNumber_shift (octets : Bool) (c : Conversion) (v : Value) :
    percentNumber (w.shift s) octets c (v.shift s) = percentNumber w octets c v := by
  simp only [percentNumber, percentNumber.notReal, integerFor, wrongSort, Value.number?_shift,
    World.typeName_shift]

theorem percentChar_shift (v : Value) : percentChar (v.shift s) = percentChar v := by
  cases v <;> rfl

/-- A value is written as a text, which is the same in a plain heap. -/
theorem percentText_shift (hw : w.heap.IsPlain) (c : Conversion) (index : Nat) (v : Value) :
    percentText (w.shift s) c index (v.shift s) = percentText w c index v := by
  simp only [percentText, percentNumber_shift, percentChar_shift, World.display_shift hw,
    World.shown_shift hw]

/-- A byte string is filled with byte strings, and with the texts of other values. -/
theorem percentOctets_shift (hw : w.heap.IsPlain) (c : Conversion) (index : Nat) (v : Value) :
    percentOctets (w.shift s) c index (v.shift s) = percentOctets w c index v := by
  have hshown := World.shown_shift (s := s) hw v
  have htype := World.typeName_shift (s := s) (w := w) v
  unfold percentOctets
  simp only [percentNumber_shift, hshown, htype, Value.int?_shift]
  cases v with
  | float | str | ref =>
    simp only [Value.shift]
    generalize c.kind = kind
    split
    · rfl
    · split <;> first | rfl | simp_all
  | _ => rfl

theorem percentValue_shift (hw : w.heap.IsPlain) (octets : Bool) (c : Conversion) (index : Nat)
    (v : Value) : percentValue (w.shift s) octets c index (v.shift s) =
      percentValue w octets c index v := by
  simp only [percentValue, percentOctets_shift hw, percentText_shift hw]

theorem takeKeyed_shift (hw : w.heap.IsPlain) (octets : Bool) (supply : Supply)
    (text : List Char) : takeKeyed (w.shift s) octets (supply.shift s) text =
      (takeKeyed w octets supply text).map fun r => (r.1.shift s, r.2) := by
  obtain ⟨left, keyed⟩ := supply
  unfold takeKeyed
  split
  · cases keyed with
    | none => rfl
    | some holder =>
      refine bind_map fun r => ?_
      cases octets with
      | true => exact bind_eq_map_bind (keyedValue_shift hw holder (.bytes _)) fun _ => rfl
      | false => exact bind_eq_map_bind (keyedValue_shift hw holder (.chars _)) fun _ => rfl
  · rfl

theorem takePlaces_shift (octets : Bool) (text : List Char) (supply : Supply) :
    takePlaces octets text (supply.shift s) =
      (takePlaces octets text supply).map fun r => (r.1, r.2.1, r.2.2.shift s) := by
  unfold takePlaces
  split
  · exact bind_eq_map_bind (takeAmount_shift _ _ supply) fun _ => rfl
  · rfl

/-- A conversion takes its width from the arguments first, and then its places. -/
theorem takeConversion_shift (octets : Bool) (supply : Supply) (text : List Char) :
    takeConversion octets (supply.shift s) text =
      (takeConversion octets supply text).map fun r => (r.1, r.2.1, r.2.2.shift s) := by
  unfold takeConversion
  refine bind_eq_map_bind (takeAmount_shift _ _ supply) fun r => ?_
  refine bind_eq_map_bind (takePlaces_shift octets _ _) fun (precision, rest, supply) => ?_
  dsimp only
  cases dropLength rest <;> rfl

/-- **A template is filled with the same texts behind what was left.** -/
theorem percent_shift (hw : w.heap.IsPlain) (octets : Bool) (length : Nat) : ∀ (fuel : Nat)
    (supply : Supply) (template : List Char),
    percent (w.shift s) octets length fuel (supply.shift s) template =
      (percent w octets length fuel supply template).map fun r => (r.1, r.2.shift s) := by
  intro fuel supply template
  fun_induction percent w octets length fuel supply template with
  | case1 => rfl
  | case2 fuel supply => cases fuel <;> rfl
  | case3 fuel supply rest ih => exact bind_eq_map_bind ih fun _ => rfl
  | case4 fuel supply rest hrest ih =>
    rw [percent.eq_4 _ _ _ _ _ _ hrest]
    -- a conversion takes from the supply three times: by key, for its numbers and for its value
    refine bind_eq_map_bind (takeKeyed_shift hw octets supply rest) fun r => ?_
    refine bind_eq_map_bind (takeConversion_shift octets _ _) fun r₁ => ?_
    refine bind_eq_map_bind (Supply.next_shift _) fun r₂ => ?_
    simp only [percentValue_shift hw]
    exact bind_map fun text => bind_eq_map_bind (ih _ _) fun _ => rfl
  | case5 fuel supply c rest hdouble hsign ih =>
    rw [percent.eq_5 _ _ _ _ _ _ _ hdouble hsign]
    exact bind_eq_map_bind ih fun _ => rfl

/-- The arguments of a template are the items of a tuple, or one value. -/
theorem supplyOf_shift (octets : Bool) (v : Value) :
    supplyOf (w.shift s) octets (v.shift s) = (supplyOf w octets v).shift s := by
  cases v with
  | ref a =>
    cases hcell : w.heap.cell? a with
    | none => simp [supplyOf, World.sequence?, hcell, Supply.shift]
    | some c => cases c <;> simp [supplyOf, World.sequence?, hcell, Cell.shift, Supply.shift]
  | bytes bs => cases octets <;> rfl
  | _ => rfl

/-- Whether arguments are left over in the end does not depend on where they lie. -/
theorem fillPercent_shift (hw : w.heap.IsPlain) (octets : Bool) (template : List Char)
    (args : Value) :
    fillPercent (w.shift s) octets template (args.shift s) = fillPercent w octets template args := by
  simp only [fillPercent, supplyOf_shift, percent_shift hw]
  cases percent w octets template.length (template.length + 1) (supplyOf w octets args) template with
  | error m => rfl
  | ok r =>
    have hleft : (r.2.shift s).left.isEmpty = r.2.left.isEmpty := List.isEmpty_map
    have hkeyed : (r.2.shift s).keyed.isNone = r.2.keyed.isNone := Option.isNone_map
    simp only [Except.map, bind, Except.bind, hleft, hkeyed]

theorem fillText_shift (hw : w.heap.IsPlain) (template : Value) (text : List Char) (args : Value) :
    fillText (w.shift s) (template.shift s) text (args.shift s) =
      (fillText w template text args).map (Answer.shift s) := by
  unfold fillText
  rw [fillPercent_shift hw]
  refine bind_map fun filled => ?_
  split <;> rfl

end Template

/-! ### Operators -/

namespace Operator

/-- An operator suits a value by its sort. -/
theorem suits_shift (op : Operator) (v : Value) : op.suits (w.shift s) (v.shift s) = op.suits w v := by
  have hindex : Operator.index.suits (w.shift s) (v.shift s) = Operator.index.suits w v := by
    simp only [suits, World.sequence?_shift, Option.isSome_map]
    cases v with
    | ref a =>
      simp only [Value.shift_ref, World.heap_shift, Heap.cell?_shift]
      cases w.heap.cell? a with
      | none => rfl
      | some c => cases c <;> rfl
    | _ => rfl
  cases op with
  | arithmetic op =>
    cases op with
    | add | mul =>
      simp only [suits, World.sequence?_shift, Value.number?_shift, Option.isSome_map]
    | mod =>
      simp only [suits, Value.number?_shift]
      cases v <;> rfl
    | _ => simp only [suits, Value.number?_shift]
  | index => exact hindex
  | neg => simp only [suits, Value.number?_shift]
  | _ => rfl

/-- **An operator on two values behind what was left.** -/
theorem arithmeticOn_shift (hw : w.heap.IsPlain) (op : Value.Arithmetic) (a b : Value) :
    arithmeticOn (w.shift s) op (a.shift s) (b.shift s) =
      (arithmeticOn w op a b).map (Answer.shift s) := by
  have hmishap := congrArg (Except.error (α := Answer)) (op.mishap_shift (s := s) (w := w) a b)
  simp only [arithmeticOn, Value.number?_shift, World.sequence?_shift]
  cases ha : a.number? with
  | some x =>
    cases hb : b.number? with
    | some y => exact (Value.map_arithmetic op x y).symm
    | none =>
      -- a number is no sequence, so only a sequence that is repeated is left
      have hleft : w.sequence? a = none := by cases a <;> first | rfl | cases ha
      rw [hleft]
      cases w.sequence? b with
      | none => cases op <;> exact hmishap
      | some r =>
        cases op with
        | mul => exact World.repeatBy_shift r a
        | _ => exact hmishap
  | none =>
    cases hq : w.sequence? a with
    | none =>
      cases w.sequence? b with
      | none => cases op <;> exact hmishap
      | some r => cases op <;> exact hmishap
    | some q =>
      cases op with
      | add => exact World.concat_shift q b
      | mul => exact World.repeatBy_shift q b
      | mod =>
        cases q with
        | text t => exact Template.fillText_shift hw a _ b
        | octets bs =>
          simp only [Option.map_some, Sequence.shift, Template.fillPercent_shift hw]
          exact bind_map fun _ => rfl
        | list | tuple => exact hmishap
      | _ => exact hmishap

theorem negated_shift (v : Value) :
    negated (w.shift s) (v.shift s) = (negated w v).map (Answer.shift s) := by
  simp only [negated, Value.number?_shift, World.typeName_shift]
  cases v.number? with
  | none => rfl
  | some x => cases x <;> rfl

/-- An item is one of a sequence, or the value of a key. -/
theorem itemOf_shift (hw : w.heap.IsPlain) (v key : Value) :
    itemOf (w.shift s) (v.shift s) (key.shift s) = (itemOf w v key).map (Answer.shift s) := by
  have hnone : (Except.error (itemOf.noItems (w.shift s) (v.shift s)) : Except Mishap Answer) =
      .error (itemOf.noItems w v) := by
    rw [itemOf.noItems, World.typeName_shift, itemOf.noItems]
  simp only [itemOf, World.sequence?_shift]
  cases w.sequence? v with
  | some q => exact q.subscript_shift key
  | none =>
    cases v with
    | ref a =>
      simp only [Option.map_none, Value.shift_ref, World.heap_shift, Heap.cell?_shift]
      cases w.heap.cell? a with
      | none => exact hnone
      | some c =>
        cases c with
        | dict entries =>
          simp only [Option.map_some, Cell.shift, World.checkKey_shift, World.findEntry_shift,
            World.missingKey_shift hw]
          refine bind_map fun _ => ?_
          cases w.findEntry key entries <;> rfl
        | _ => exact hnone
    | _ => exact hnone

/-- **What an operator gives behind what was left.** -/
theorem apply_shift (hw : w.heap.IsPlain) (op : Operator) (receiver : Value) (args : List Value) :
    op.apply (w.shift s) (receiver.shift s) (args.map (Value.shift s)) =
      (op.apply w receiver args).map (Answer.shift s) := by
  have hneg := negated_shift (s := s) (w := w) receiver
  have hnot : (do return .bool !(← (w.shift s).truthy (receiver.shift s)) : Except Mishap Answer) =
      (do return .bool !(← w.truthy receiver) : Except Mishap Answer).map (Answer.shift s) := by
    rw [World.truthy_shift]
    exact bind_map fun _ => rfl
  rcases args with _ | ⟨b, _ | ⟨_, _⟩⟩
  · cases op <;> first | exact hneg | exact hnot | rfl
  · cases op with
    | neg => exact hneg
    | not => exact hnot
    | arithmetic op => exact arithmeticOn_shift hw op receiver b
    | index => exact itemOf_shift hw receiver b
    | compare c =>
      simp only [List.map_cons, List.map_nil, apply, Comparison.test_shift]
      exact bind_map fun _ => rfl
    | eq | ne =>
      simp only [List.map_cons, List.map_nil, apply, World.heap_shift, Heap.same_shift]
      rfl
    | and | or =>
      simp only [List.map_cons, List.map_nil, apply, World.truthy_shift]
      refine bind_map fun truth => ?_
      cases truth <;> rfl
  · cases op <;> first | exact hneg | exact hnot | rfl

end Operator

end Treewalk
