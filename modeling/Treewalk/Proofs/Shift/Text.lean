import Treewalk.Proofs.Shift.Operator

/-!
# Texts, byte strings and numbers behind what was left

The capabilities of texts, byte strings and numbers only read the world. They look at arguments one
by one: whether there is one, whether it is a text, which integer it is, what its type is called.
None of this tells a world from its shift, so what is replied to a shifted request is the shift of
the reply (`Treewalk.TextRequest.IsBlind`, `Treewalk.OctetRequest.IsBlind`). Each of the ways to
reply is looked at once; that all entries of the tables are blind follows, since they are made of
these.
-/

namespace Treewalk

variable {s : Shift} {w : World}

/-! ### Texts -/

namespace TextRequest

/-- A request behind what was left. -/
def shift (s : Shift) (q : TextRequest) : TextRequest :=
  ⟨q.world.shift s, q.receiver.shift s, q.text, q.args.map (Value.shift s)⟩

/-- **A reply does not see what was left**: that to a shifted request is the shift of the reply. -/
def IsBlind (s : Shift) (r : Reply) : Prop :=
  ∀ q : TextRequest, q.world.heap.IsPlain → r (q.shift s) = (r q).map (Answer.shift s)

variable {q : TextRequest}

@[simp] theorem text_shift : (q.shift s).text = q.text := rfl

@[simp] theorem world_shift : (q.shift s).world = q.world.shift s := rfl

@[simp] theorem args_shift : (q.shift s).args = q.args.map (Value.shift s) := rfl

/-- An argument is there behind what was left if it is there without it. -/
@[simp] theorem arg?_shift (i : Nat) : (q.shift s).arg? i = (q.arg? i).map (Value.shift s) :=
  List.getElem?_map

/-- Types are called by their cells, which are moved as a whole. -/
@[simp] theorem typeName_shift (v : Value) : (q.shift s).typeName (v.shift s) = q.typeName v :=
  World.typeName_shift v

/-- A size is read off an integer, which does not lie on the heap. -/
@[simp] theorem size_shift (i : Nat) (usual : Int) : (q.shift s).size i usual = q.size i usual := by
  simp only [size, arg?_shift]
  cases q.arg? i with
  | none => rfl
  | some v => exact World.size_shift v

@[simp] theorem smallInteger_shift (i : Nat) (usual : Int) :
    (q.shift s).smallInteger i usual = q.smallInteger i usual := by
  simp only [smallInteger, arg?_shift]
  cases q.arg? i with
  | none => rfl
  | some v => exact World.smallInteger_shift v

/-- A text does not lie on the heap either, and what is refused is called by its type. -/
@[simp] theorem textArg_shift (i : Nat) (refusal : String) :
    (q.shift s).textArg i refusal = q.textArg i refusal := by
  simp only [textArg, arg?_shift]
  cases q.arg? i with
  | none => rfl
  | some v =>
    have hfound := World.found_shift (s := s) (w := q.world) v
    cases v with
    | ref a => exact congrArg (fun t => Except.error (Mishap.type (refusal ++ t))) hfound
    | _ => rfl

@[simp] theorem fillCharacter_shift (i : Nat) :
    (q.shift s).fillCharacter i = q.fillCharacter i := by
  simp only [fillCharacter, arg?_shift]
  cases q.arg? i with
  | none => rfl
  | some v =>
    have htype := q.typeName_shift (s := s) v
    cases v with
    | ref a =>
      simp only [Option.map_some, Value.shift_ref] at htype ⊢
      rw [htype]
    | _ => rfl

/-- What is made of the receiver alone depends on nothing else. -/
theorem isBlind_mapped (f : List Char → List Char) : IsBlind s (mapped f) := fun _ _ => rfl

theorem isBlind_tested (p : List Char → Bool) : IsBlind s (tested p) := fun _ _ => rfl

/-- A text is padded to a size, with a character; both are read off arguments. -/
theorem isBlind_padded (pad : Nat → Char → List Char → List Char) : IsBlind s (padded pad) := by
  intro q _
  simp only [padded, size_shift, fillCharacter_shift]
  exact bind_map fun _ => bind_map fun _ => rfl

theorem isBlind_zeroFilled : IsBlind s zeroFilled := by
  intro q _
  simp only [zeroFilled, size_shift]
  exact bind_map fun _ => rfl

theorem isBlind_expanded : IsBlind s expanded := by
  intro q _
  simp only [expanded, smallInteger_shift]
  exact bind_map fun _ => rfl

/-- What is stripped off are blanks, or the characters of a text. -/
theorem isBlind_stripped (name : String) (strip : (Char → Bool) → List Char → List Char) :
    IsBlind s (stripped name strip) := by
  intro q _
  simp only [stripped, arg?_shift]
  cases q.arg? 0 with
  | none => rfl
  | some v => cases v <;> rfl

theorem isBlind_withoutStart : IsBlind s withoutStart := by
  intro q _
  simp only [withoutStart, textArg_shift]
  exact bind_map fun _ => rfl

theorem isBlind_withoutEnd : IsBlind s withoutEnd := by
  intro q _
  simp only [withoutEnd, textArg_shift]
  exact bind_map fun _ => rfl

/-- The parts of a text are new texts, whatever it is split at. -/
theorem isBlind_split (blank : Int → List Char → List (List Char))
    (on : List Char → Int → List Char → List (List Char)) : IsBlind s (split blank on) := by
  intro q _
  simp only [split, size_shift, arg?_shift]
  refine bind_map fun limit => ?_
  have htexts (ts : List (List Char)) :
      (Except.ok (.texts ts) : Except Mishap Answer) = (Except.ok (.texts ts)).map (Answer.shift s) :=
    congrArg Except.ok (Answer.shift_texts ts).symm
  cases q.arg? 0 with
  | none => exact htexts _
  | some v =>
    have htype := q.typeName_shift (s := s) v
    cases v with
    | nil => exact htexts _
    | str t fresh =>
      by_cases ht : t = ""
      · subst ht
        rfl
      · simp only [Option.map_some, Value.shift_str]
        exact htexts _
    | ref a =>
      exact congrArg (fun t => Except.error (Mishap.type ("must be str or None, not " ++ t))) htype
    | _ => rfl

theorem isBlind_lines : IsBlind s lines := by
  intro q _
  simp only [lines, smallInteger_shift]
  exact bind_map fun _ => congrArg Except.ok (Answer.shift_texts _).symm

/-- The texts among the items of a sequence are where they were. -/
@[simp] theorem textItems_shift (i : Nat) (items : List Value) :
    (q.shift s).textItems i (items.map (Value.shift s)) = q.textItems i items := by
  induction items generalizing i with
  | nil => rfl
  | cons v rest ih =>
    have htype := q.typeName_shift (s := s) v
    cases v with
    | str t fresh => simp only [List.map_cons, Value.shift_str, textItems, ih]
    | ref a => simp only [List.map_cons, Value.shift_ref, textItems] at htype ⊢; rw [htype]
    | _ => rfl

/-- A sequence is joined item by item; one on the heap has moved, but its texts have not. -/
theorem isBlind_joined : IsBlind s joined := by
  intro q _
  simp only [joined, arg?_shift, world_shift, World.bind_items?_shift]
  cases (q.arg? 0).bind q.world.items? with
  | none => rfl
  | some items =>
    simp only [Option.map_some, textItems_shift]
    exact bind_map fun _ => rfl

/-- What is missing is filled up with the receiver, so this has to move along. -/
theorem isBlind_partition (find : List Char → List Char → Option Nat)
    {missing : Value → List Value}
    (hmissing : ∀ v, missing (v.shift s) = (missing v).map (Value.shift s)) :
    IsBlind s (partition find missing) := by
  intro q _
  simp only [partition, arg?_shift]
  cases q.arg? 0 with
  | none => rfl
  | some v =>
    have htype := q.typeName_shift (s := s) v
    cases v with
    | str t fresh =>
      change (if t.toList.isEmpty then _ else _) =
        Except.map (Answer.shift s) (if t.toList.isEmpty then _ else _)
      split
      · rfl
      · simp only [text_shift]
        cases find t.toList q.text with
        | some i => rfl
        | none => exact congrArg (fun vs => Except.ok (Answer.tuple vs)) (hmissing q.receiver)
    | ref a => exact congrArg (fun t => Except.error (Mishap.type ("must be str, not " ++ t))) htype
    | _ => rfl

theorem isBlind_replaced : IsBlind s replaced := by
  intro q _
  simp only [replaced, textArg_shift, size_shift]
  exact bind_map fun _ => bind_map fun _ => bind_map fun _ => rfl

@[simp] theorem windowEnd_shift (i : Nat) (usual : Int) :
    (q.shift s).windowEnd i usual = q.windowEnd i usual := by
  simp only [windowEnd, arg?_shift]
  cases q.arg? i with
  | none => rfl
  | some v => cases v <;> rfl

/-- What is searched for moves as an argument does, and the window is one of the receiver. -/
theorem searched_shift (name : String) :
    (q.shift s).searched name = (q.searched name).map fun r => (r.1.shift s, r.2) := by
  simp only [searched, args_shift, windowEnd_shift, text_shift]
  cases q.args with
  | nil => rfl
  | cons v rest =>
    simp only [List.map_cons, List.length_cons, List.length_map]
    split
    · rfl
    · exact bind_map fun _ => bind_map fun _ => rfl

/-- A place in the receiver is an integer, and so is the number of places. -/
theorem isBlind_search (name : String) {none : Answer}
    {found : Nat → List Char → List Char → Answer} (hnone : none.shift s = none)
    (hfound : ∀ start t part, (found start t part).shift s = found start t part) :
    IsBlind s (search name none found) := by
  intro q _
  refine bind_eq_map_bind (searched_shift name) fun (v, window) => ?_
  have htype := q.typeName_shift (s := s) v
  cases v with
  | str t fresh =>
    cases window with
    | none => exact congrArg Except.ok hnone.symm
    | some found => exact congrArg Except.ok (hfound _ _ _).symm
  | ref a => exact congrArg (fun t => Except.error (Mishap.type ("must be str, not " ++ t))) htype
  | _ => rfl

theorem position_shift (start : Nat) (i : Option Nat) :
    (position start i).shift s = position start i := by
  cases i <;> rfl

/-- Whether something was found is seen by the integer that is replied. -/
theorem isBlind_surely {r : Reply} (hr : IsBlind s r) : IsBlind s (surely r) := by
  intro q hq
  refine bind_eq_map_bind (hr q hq) fun a => ?_
  cases a with
  | known v =>
    cases v with
    | int n =>
      simp only [Answer.shift_known, Value.shift_int]
      split <;> rfl
    | _ => rfl
  | _ => rfl

/-- The beginnings and endings to try are texts in a tuple. -/
@[simp] theorem anyText_shift (name : String) (p : List Char → Bool) (items : List Value) :
    (q.shift s).anyText name p (items.map (Value.shift s)) = q.anyText name p items := by
  induction items with
  | nil => rfl
  | cons v rest ih =>
    have htype := q.typeName_shift (s := s) v
    cases v with
    | str t fresh => simp only [List.map_cons, Value.shift_str, anyText, ih]
    | ref a => simp only [List.map_cons, Value.shift_ref, anyText] at htype ⊢; rw [htype]
    | _ => rfl

/-- One text is tried, or those of a tuple, which lies on the heap. -/
theorem isBlind_touches (name : String) (p : List Char → List Char → Bool) :
    IsBlind s (touches name p) := by
  intro q _
  refine bind_eq_map_bind (searched_shift name) fun (v, window) => ?_
  have htype := q.typeName_shift (s := s) v
  have hrefused := congrArg (fun t => (Except.error (Mishap.type
    (name ++ " first arg must be str or a tuple of str, not " ++ t)) : Except Mishap Answer)) htype
  simp only [world_shift, World.sequence?_shift]
  cases v with
  | str t fresh => rfl
  | ref a =>
    cases q.world.sequence? (.ref a) with
    | none => exact hrefused
    | some sequence =>
      cases sequence with
      | tuple items =>
        simp only [Option.map_some, Sequence.shift, Value.shift_ref, anyText_shift]
        exact bind_map fun _ => rfl
      | _ => exact hrefused
  | _ => rfl

/-- The name of an encoding is a text; anything else is refused by its type. -/
@[simp] theorem nameArg_shift (method parameter usual : String) (v? : Option Value) :
    nameArg (w.shift s) method parameter usual (v?.map (Value.shift s)) =
      nameArg w method parameter usual v? := by
  cases v? with
  | none => rfl
  | some v =>
    have hfound := World.found_shift (s := s) (w := w) v
    cases v with
    | ref a => simp only [Option.map_some, Value.shift_ref, nameArg] at hfound ⊢; rw [hfound]
    | _ => rfl

theorem isBlind_encoded : IsBlind s encoded := by
  intro q _
  simp only [encoded, arg?_shift, world_shift, nameArg_shift]
  exact bind_map fun _ => bind_map fun _ => bind_map fun _ => rfl

/-- **No text sees what was left.** -/
theorem isBlind_textMethods : ∀ entry ∈ textMethods, IsBlind s entry.2.2 := by
  have hfound (find : List Char → List Char → Option Nat) (start : Nat) (t part : List Char) :
      (position start (find t part)).shift s = position start (find t part) :=
    position_shift start _
  simp only [textMethods, List.forall_mem_cons]
  exact ⟨isBlind_mapped _, isBlind_mapped _, isBlind_mapped _, isBlind_mapped _, isBlind_mapped _,
    isBlind_mapped _, isBlind_tested _, isBlind_tested _, isBlind_tested _, isBlind_tested _,
    isBlind_tested _, isBlind_tested _, isBlind_tested _, isBlind_tested _, isBlind_tested _,
    isBlind_tested _, isBlind_tested _, isBlind_tested _, isBlind_padded _, isBlind_padded _,
    isBlind_padded _, isBlind_zeroFilled, isBlind_expanded, isBlind_stripped _ _,
    isBlind_stripped _ _, isBlind_stripped _ _, isBlind_withoutStart, isBlind_withoutEnd,
    isBlind_split _ _, isBlind_split _ _, isBlind_lines, isBlind_joined,
    isBlind_partition _ fun _ => rfl, isBlind_partition _ fun _ => rfl, isBlind_replaced,
    isBlind_search _ rfl fun _ _ _ => rfl, isBlind_search _ rfl (hfound _),
    isBlind_search _ rfl (hfound _), isBlind_surely (isBlind_search _ rfl (hfound _)),
    isBlind_touches _ _, isBlind_touches _ _, isBlind_encoded, by simp⟩

end TextRequest

/-! ### Numbers of arguments -/

/-- Arguments that are one too many are counted, and the receiver is called by its type. -/
theorem refuseArguments_shift (receiver : Value) (name : String) (args : List Value) :
    refuseArguments (w.shift s) (receiver.shift s) name (args.map (Value.shift s)) =
      refuseArguments w receiver name args := by
  simp only [refuseArguments, List.isEmpty_map, World.typeName_shift, List.length_map]

theorem expectArguments_shift (name : String) (least most : Nat) (args : List Value) :
    expectArguments name least most (args.map (Value.shift s)) =
      expectArguments name least most args := by
  simp only [expectArguments, List.length_map]

/-! ### Byte strings -/

namespace OctetRequest

/-- A request behind what was left. -/
def shift (s : Shift) (q : OctetRequest) : OctetRequest :=
  ⟨q.world.shift s, q.receiver.shift s, q.octets, q.args.map (Value.shift s)⟩

/-- **A reply does not see what was left**: that to a shifted request is the shift of the reply. -/
def IsBlind (s : Shift) (r : Reply) : Prop :=
  ∀ q : OctetRequest, q.world.heap.IsPlain → r (q.shift s) = (r q).map (Answer.shift s)

variable {q : OctetRequest}

@[simp] theorem octets_shift : (q.shift s).octets = q.octets := rfl

@[simp] theorem world_shift : (q.shift s).world = q.world.shift s := rfl

@[simp] theorem receiver_shift : (q.shift s).receiver = q.receiver.shift s := rfl

@[simp] theorem args_shift : (q.shift s).args = q.args.map (Value.shift s) := rfl

@[simp] theorem arg?_shift (i : Nat) : (q.shift s).arg? i = (q.arg? i).map (Value.shift s) :=
  List.getElem?_map

/-- The octets of a value: those of a byte string, which does not lie on the heap. -/
@[simp] theorem octetsOf_shift (v : Value) : octetsOf (w.shift s) (v.shift s) = octetsOf w v := by
  have htype := World.typeName_shift (s := s) (w := w) v
  cases v with
  | ref a | str t fresh => simp only [octetsOf, notOctets, Value.shift] at htype ⊢; rw [htype]
  | _ => rfl

/-- So an argument has the octets that it had. -/
@[simp] theorem octetArg_shift (i : Nat) : (q.shift s).octetArg i = q.octetArg i := by
  simp only [octetArg, arg?_shift, world_shift]
  cases q.arg? i with
  | none => rfl
  | some v => exact octetsOf_shift v

@[simp] theorem size_shift (i : Nat) (usual : Int) : (q.shift s).size i usual = q.size i usual := by
  simp only [size, arg?_shift]
  cases q.arg? i with
  | none => rfl
  | some v => exact World.size_shift v

@[simp] theorem smallInteger_shift (i : Nat) (usual : Int) :
    (q.shift s).smallInteger i usual = q.smallInteger i usual := by
  simp only [smallInteger, arg?_shift]
  cases q.arg? i with
  | none => rfl
  | some v => exact World.smallInteger_shift v

theorem isBlind_mapped (name : String) (f : List Char → List Char) : IsBlind s (mapped name f) := by
  intro q _
  simp only [mapped, world_shift, receiver_shift, args_shift, refuseArguments_shift]
  exact bind_map fun _ => rfl

theorem isBlind_tested (name : String) (p : List Char → Bool) : IsBlind s (tested name p) := by
  intro q _
  simp only [tested, world_shift, receiver_shift, args_shift, refuseArguments_shift]
  exact bind_map fun _ => rfl

/-- What a byte string is filled with is one octet, or it is refused by what it is. -/
@[simp] theorem filling_shift (name : String) : (q.shift s).filling name = q.filling name := by
  simp only [filling, arg?_shift]
  cases q.arg? 1 with
  | none => rfl
  | some v =>
    have hfound := World.found_shift (s := s) (w := q.world) v
    cases v with
    | ref a | str t fresh =>
      simp only [Option.map_some, Value.shift, world_shift] at hfound ⊢
      rw [hfound]
    | bytes bs => rcases bs with _ | ⟨b, _ | ⟨_, _⟩⟩ <;> rfl
    | _ => rfl

theorem isBlind_padded (name : String) (pad : Nat → Char → List Char → List Char) :
    IsBlind s (padded name pad) := by
  intro q _
  simp only [padded, size_shift, filling_shift]
  exact bind_map fun _ => bind_map fun _ => rfl

theorem isBlind_zeroFilled : IsBlind s zeroFilled := by
  intro q _
  simp only [zeroFilled, size_shift]
  exact bind_map fun _ => rfl

theorem isBlind_expanded : IsBlind s expanded := by
  intro q _
  simp only [expanded, smallInteger_shift]
  exact bind_map fun _ => rfl

theorem isBlind_stripped (strip : (Char → Bool) → List Char → List Char) :
    IsBlind s (stripped strip) := by
  intro q _
  simp only [stripped, arg?_shift]
  cases q.arg? 0 with
  | none => rfl
  | some v =>
    have hoctets := octetsOf_shift (s := s) (w := q.world) v
    cases v with
    | nil => rfl
    | _ =>
      simp only [Option.map_some, Value.shift, world_shift] at hoctets ⊢
      rw [hoctets]
      exact bind_map fun _ => rfl

theorem isBlind_withoutStart : IsBlind s withoutStart := by
  intro q _
  simp only [withoutStart, octetArg_shift]
  exact bind_map fun _ => rfl

theorem isBlind_withoutEnd : IsBlind s withoutEnd := by
  intro q _
  simp only [withoutEnd, octetArg_shift]
  exact bind_map fun _ => rfl

/-- A list of new byte strings has nothing on the heap but itself. -/
theorem shift_list_bytes (parts : List (List Char)) :
    (Answer.list (parts.map bytes)).shift s = .list (parts.map bytes) := by
  simp [bytes, Function.comp_def]

theorem isBlind_split (blank : Int → List Char → List (List Char))
    (on : List Char → Int → List Char → List (List Char)) : IsBlind s (split blank on) := by
  intro q _
  simp only [split, size_shift, arg?_shift]
  refine bind_map fun limit => ?_
  have hparts (parts : List (List Char)) :=
    congrArg (Except.ok (ε := Mishap)) (shift_list_bytes (s := s) parts).symm
  cases q.arg? 0 with
  | none => exact hparts _
  | some v =>
    have hoctets := octetsOf_shift (s := s) (w := q.world) v
    cases v with
    | nil => exact hparts _
    | _ =>
      simp only [Option.map_some, Value.shift, world_shift] at hoctets ⊢
      rw [hoctets]
      refine bind_map fun sep => ?_
      split
      · rfl
      · exact hparts _

theorem isBlind_lines : IsBlind s lines := by
  intro q _
  simp only [lines, smallInteger_shift]
  exact bind_map fun _ => congrArg Except.ok (shift_list_bytes _).symm

/-- The byte strings among the items of a sequence are where they were. -/
@[simp] theorem octetItems_shift (i : Nat) (items : List Value) :
    (q.shift s).octetItems i (items.map (Value.shift s)) = q.octetItems i items := by
  induction items generalizing i with
  | nil => rfl
  | cons v rest ih =>
    have htype := World.typeName_shift (s := s) (w := q.world) v
    cases v with
    | bytes bs => simp only [List.map_cons, Value.shift_bytes, octetItems, ih]
    | ref a | str t fresh =>
      simp only [List.map_cons, Value.shift, octetItems, world_shift] at htype ⊢
      rw [htype]
    | _ => rfl

theorem isBlind_joined : IsBlind s joined := by
  intro q _
  simp only [joined, arg?_shift, world_shift, World.bind_items?_shift]
  cases (q.arg? 0).bind q.world.items? with
  | none => rfl
  | some items =>
    simp only [Option.map_some, octetItems_shift]
    exact bind_map fun _ => rfl

theorem isBlind_partition (find : List Char → List Char → Option Nat)
    {missing : Value → List Value}
    (hmissing : ∀ v, missing (v.shift s) = (missing v).map (Value.shift s)) :
    IsBlind s (partition find missing) := by
  intro q _
  simp only [partition, octetArg_shift]
  refine bind_map fun sep => ?_
  split
  · rfl
  · simp only [octets_shift]
    cases find sep q.octets with
    | some i => rfl
    | none => exact congrArg (fun vs => Except.ok (Answer.tuple vs)) (hmissing q.receiver)

theorem isBlind_replaced : IsBlind s replaced := by
  intro q _
  simp only [replaced, octetArg_shift, size_shift]
  exact bind_map fun _ => bind_map fun _ => bind_map fun _ => rfl

/-- A table is made of the octets of two byte strings. -/
theorem isBlind_table : IsBlind s table := by
  intro q _
  simp only [table, octetArg_shift]
  refine bind_map fun source => bind_map fun target => ?_
  split <;> rfl

@[simp] theorem givenTable_shift : (q.shift s).givenTable = q.givenTable := by
  simp only [givenTable, arg?_shift]
  cases q.arg? 0 with
  | none => rfl
  | some v =>
    have hoctets := octetsOf_shift (s := s) (w := q.world) v
    cases v with
    | nil => rfl
    | _ => exact hoctets

@[simp] theorem leftOut_shift : (q.shift s).leftOut = q.leftOut := by
  simp only [leftOut, arg?_shift]
  cases q.arg? 1 with
  | none => rfl
  | some v => exact octetsOf_shift v

theorem isBlind_tabled : IsBlind s tabled := by
  intro q _
  simp only [tabled, givenTable_shift, leftOut_shift]
  refine bind_map fun table => ?_
  split
  · rfl
  · exact bind_map fun _ => rfl

/-- What is searched for in a byte string is an octet or a byte string. -/
@[simp] theorem sought_shift (v : Value) : sought (w.shift s) (v.shift s) = sought w v := by
  have htype := World.typeName_shift (s := s) (w := w) v
  cases v with
  | ref a | str t fresh => simp only [sought, Value.shift, Value.int?] at htype ⊢; rw [htype]
  | _ => rfl

/-- Both kinds of texts are searched in the same way. -/
theorem searched_shift (name : String) :
    (q.shift s).searched name = (q.searched name).map fun r => (r.1.shift s, r.2) :=
  TextRequest.searched_shift (q := ⟨q.world, q.receiver, q.octets, q.args⟩) name

theorem isBlind_search (name : String) {none : Answer}
    {found : Nat → List Char → List Char → Answer} (hnone : none.shift s = none)
    (hfound : ∀ start t part, (found start t part).shift s = found start t part) :
    IsBlind s (search name none found) := by
  intro q _
  refine bind_eq_map_bind (searched_shift name) fun (v, window) => ?_
  simp only [world_shift, sought_shift]
  refine bind_map fun sought => ?_
  cases window with
  | none => exact congrArg Except.ok hnone.symm
  | some found => exact congrArg Except.ok (hfound _ _ _).symm

theorem isBlind_surely {r : Reply} (hr : IsBlind s r) : IsBlind s (surely r) := by
  intro q hq
  refine bind_eq_map_bind (hr q hq) fun a => ?_
  cases a with
  | known v =>
    cases v with
    | int n =>
      simp only [Answer.shift_known, Value.shift_int]
      split <;> rfl
    | _ => rfl
  | _ => rfl

@[simp] theorem anyOctets_shift (p : List Char → Bool) (items : List Value) :
    anyOctets (w.shift s) p (items.map (Value.shift s)) = anyOctets w p items := by
  induction items with
  | nil => rfl
  | cons v rest ih => simp only [List.map_cons, anyOctets, octetsOf_shift, ih]

theorem isBlind_touches (name : String) (p : List Char → List Char → Bool) :
    IsBlind s (touches name p) := by
  intro q _
  refine bind_eq_map_bind (searched_shift name) fun (v, window) => ?_
  have htype := World.typeName_shift (s := s) (w := q.world) v
  have hrefused := congrArg (fun t => (Except.error (Mishap.type
    (name ++ " first arg must be bytes or a tuple of bytes, not " ++ t)) : Except Mishap Answer))
    htype
  simp only [world_shift, World.sequence?_shift]
  cases v with
  | str t fresh => exact hrefused
  | ref a =>
    cases q.world.sequence? (.ref a) with
    | none => exact hrefused
    | some sequence =>
      cases sequence with
      | tuple items =>
        simp only [Option.map_some, Sequence.shift, Value.shift_ref, anyOctets_shift]
        exact bind_map fun _ => rfl
      | _ => exact hrefused
  | _ => rfl

/-- What is read of a text of digits is a new byte string. -/
theorem isBlind_ofHex : IsBlind s ofHex := by
  intro q _
  have hread (t : List Char) : readHex t = (readHex t).map (Answer.shift s) := by
    unfold readHex
    dsimp only
    split <;> rfl
  simp only [ofHex, arg?_shift]
  cases q.arg? 0 with
  | none => rfl
  | some v =>
    have hfound := World.found_shift (s := s) (w := q.world) v
    cases v with
    | str t fresh => exact hread t.toList
    | ref a => exact congrArg (fun t => Except.error (Mishap.type
        ("fromhex() argument must be str, not " ++ t))) hfound
    | _ => rfl

theorem isBlind_decoded : IsBlind s decoded := by
  intro q _
  simp only [decoded, arg?_shift, world_shift, TextRequest.nameArg_shift]
  exact bind_map fun _ => bind_map fun _ => bind_map fun _ => rfl

@[simp] theorem separator_shift (v : Value) : separator (w.shift s) (v.shift s) = separator w v := by
  simp only [separator, World.length_shift]
  cases v <;> rfl

/-- The digits may be set apart, by a text or a byte string. -/
theorem isBlind_hexDigits : IsBlind s hexDigits := by
  intro q _
  simp only [hexDigits, args_shift, List.length_map, smallInteger_shift, arg?_shift]
  split
  · rfl
  · refine bind_map fun size => ?_
    cases q.arg? 0 with
    | none => rfl
    | some v =>
      simp only [Option.map_some, world_shift, separator_shift]
      exact bind_map fun _ => rfl

/-- **No byte string sees what was left.** -/
theorem isBlind_octetMethods : ∀ entry ∈ octetMethods, IsBlind s entry.2.2 := by
  have hfound (find : List Char → List Char → Option Nat) (start : Nat) (t part : List Char) :
      (TextRequest.position start (find t part)).shift s =
        TextRequest.position start (find t part) :=
    TextRequest.position_shift start _
  simp only [octetMethods, List.forall_mem_cons]
  exact ⟨isBlind_mapped _ _, isBlind_mapped _ _, isBlind_mapped _ _, isBlind_mapped _ _,
    isBlind_mapped _ _, isBlind_tested _ _, isBlind_tested _ _, isBlind_tested _ _,
    isBlind_tested _ _, isBlind_tested _ _, isBlind_tested _ _, isBlind_tested _ _,
    isBlind_tested _ _, isBlind_padded _ _, isBlind_padded _ _, isBlind_padded _ _,
    isBlind_zeroFilled, isBlind_expanded, isBlind_stripped _, isBlind_stripped _,
    isBlind_stripped _, isBlind_withoutStart, isBlind_withoutEnd, isBlind_split _ _,
    isBlind_split _ _, isBlind_lines, isBlind_joined, isBlind_partition _ fun _ => rfl,
    isBlind_partition _ fun _ => rfl, isBlind_replaced, isBlind_table, isBlind_tabled,
    isBlind_search _ rfl fun _ _ _ => rfl, isBlind_search _ rfl (hfound _),
    isBlind_search _ rfl (hfound _), isBlind_surely (isBlind_search _ rfl (hfound _)),
    isBlind_touches _ _, isBlind_touches _ _, isBlind_decoded, isBlind_ofHex, isBlind_hexDigits,
    by simp⟩

end OctetRequest

/-! ### Numbers -/

namespace IntMethod

/-- The order of octets is one of two texts. -/
@[simp] theorem byteOrder_shift (method : String) (v? : Option Value) :
    byteOrder (w.shift s) method (v?.map (Value.shift s)) = byteOrder w method v? := by
  cases v? with
  | none => rfl
  | some v =>
    have hfound := World.found_shift (s := s) (w := w) v
    cases v with
    | str t fresh =>
      by_cases hbig : t = "big"
      · subst hbig
        rfl
      · by_cases hlittle : t = "little"
        · subst hlittle
          rfl
        · simp only [Option.map_some, Value.shift_str, byteOrder]
    | ref a =>
      simp only [Option.map_some, Value.shift_ref, byteOrder] at hfound ⊢
      rw [hfound]
    | _ => rfl

@[simp] theorem lengthOf_shift (v? : Option Value) :
    lengthOf (w.shift s) (v?.map (Value.shift s)) = lengthOf w v? := by
  cases v? with
  | none => rfl
  | some v => exact World.size_shift v

/-- An integer is written to a new byte string. -/
theorem toOctets_shift (n : Int) (args : List Value) :
    toOctets n (w.shift s) (args.map (Value.shift s)) =
      (toOctets n w args).map (Answer.shift s) := by
  simp only [toOctets, List.getElem?_map, byteOrder_shift, lengthOf_shift]
  exact bind_map fun _ => bind_map fun _ => bind_map fun _ => rfl

@[simp] theorem octetOf_shift (v : Value) : octetOf (w.shift s) (v.shift s) = octetOf w v := by
  simp only [octetOf, World.integer_shift]

@[simp] theorem octetsIn_shift (v : Value) : octetsIn (w.shift s) (v.shift s) = octetsIn w v := by
  simp only [octetsIn, World.typeName_shift, World.items?_shift]
  cases v with
  | ref a =>
    cases w.items? (.ref a) with
    | none => rfl
    | some items => exact mapM_map_shift octetOf_shift items
  | _ => rfl

theorem fromOctets_shift (receiver : Value) (args : List Value) :
    fromOctets (receiver.shift s) (w.shift s) (args.map (Value.shift s)) =
      (fromOctets receiver w args).map (Answer.shift s) := by
  simp only [fromOctets, List.getElem?_map, byteOrder_shift, Value.headD_map_shift, octetsIn_shift]
  refine bind_map fun big => bind_map fun bs => ?_
  cases receiver <;> rfl

end IntMethod

theorem map_floatRatio (x : Float) : (floatRatio x).map (Answer.shift s) = floatRatio x := by
  unfold floatRatio
  split <;> rfl

theorem floatOfHex_shift (v : Value) :
    floatOfHex (v.shift s) = (floatOfHex v).map (Answer.shift s) := by
  cases v with
  | str t fresh =>
    simp only [floatOfHex, Value.shift_str]
    split <;> rfl
  | _ => rfl

end Treewalk
