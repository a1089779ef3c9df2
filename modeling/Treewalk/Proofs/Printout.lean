import Treewalk.Proofs.Shift.Basic
import Treewalk.Proofs.Source

/-!
# Reading printed values

Values are printed for people, and nothing reads them again. What is printed says what the value was
all the same, if it is plain data: nil, truth values, integers, texts, and lists and dictionaries of
these that do not hold themselves (`Treewalk.Heap.Unfolds`). A reader shows it
(`Treewalk.Printout.readValue`). Quotes, brackets and the words say by their first character what
kind of value begins; a text is over at the first quote that is not escaped, whatever is in it; and
a word is over where a character comes that no word has, which is the case for each of the
separators.

* **`Treewalk.Printout.readValue_printed`**: the reader undoes the printer.
* **`Treewalk.World.printed_unambiguous`**: values that are printed alike are equal.
-/

namespace Treewalk

open Text Source

namespace Picture

theorem anyHuge_eq_any (ps : List Picture) : anyHuge ps = ps.any hasHugeInt := by
  induction ps with
  | nil => rfl
  | cons p ps ih => rw [anyHuge, ih, List.any_cons]

theorem anyHugeEntry_eq_any (es : List (Picture × Picture)) :
    anyHugeEntry es = es.any fun e => e.1.hasHugeInt || e.2.hasHugeInt := by
  induction es with
  | nil => rfl
  | cons e es ih => rw [anyHugeEntry, ih, List.any_cons]

theorem printedAll_eq_map (ps : List Picture) : printedAll ps = ps.map printed := by
  induction ps with
  | nil => rfl
  | cons p ps ih => rw [printedAll, ih, List.map_cons]

theorem printedEntries_eq_map (es : List (Picture × Picture)) :
    printedEntries es = es.map fun e => printed e.1 ++ " => " ++ printed e.2 := by
  induction es with
  | nil => rfl
  | cons e es ih => rw [printedEntries, ih, List.map_cons]

/-- A tree is larger than the trees in it. -/
theorem sizeOf_lt_list {items : List Picture} {p : Picture} (hp : p ∈ items) :
    sizeOf p < sizeOf (list items) := by
  have hlt := List.sizeOf_lt_of_mem hp
  rw [list.sizeOf_spec]
  omega

theorem sizeOf_lt_dict {entries : List (Picture × Picture)} {key value : Picture}
    (he : (key, value) ∈ entries) :
    sizeOf key < sizeOf (dict entries) ∧ sizeOf value < sizeOf (dict entries) := by
  have hlt := List.sizeOf_lt_of_mem he
  rw [Prod.mk.sizeOf_spec] at hlt
  rw [dict.sizeOf_spec]
  omega

end Picture

/-! ### Plain data -/

namespace Heap

/-- **A value is plain data**, and unfolds to a finite tree: it is nil, a truth value, an integer
that has a text, a text, or a list or dictionary of plain data. What a container holds unfolds
before the container does, so that no container is inside of itself. -/
inductive Unfolds (h : Heap) : Value → Picture → Prop
  | nil : Unfolds h .nil .nil
  | bool (b : Bool) : Unfolds h (.bool b) (.bool b)
  | int (n : Int) (short : Decimal.isTooLong n = false) : Unfolds h (.int n) (.int n)
  | str (s : String) (fresh : Option Nat) : Unfolds h (.str s fresh) (.str s)
  | list {a : Nat} {items : List Value} (tree : Value → Picture)
      (cell : h.cell? a = some (.list items)) (each : ∀ v ∈ items, Unfolds h v (tree v)) :
      Unfolds h (.ref a) (.list (items.map tree))
  | dict {a : Nat} {entries : List (Value × Value)} (tree : Value → Picture)
      (cell : h.cell? a = some (.dict entries)) (keys : ∀ e ∈ entries, Unfolds h e.1 (tree e.1))
      (values : ∀ e ∈ entries, Unfolds h e.2 (tree e.2)) :
      Unfolds h (.ref a) (.dict (entries.map fun e => (tree e.1, tree e.2)))

namespace Unfolds

variable {h : Heap} {v : Value} {p q : Picture}

/-- There is one way to unfold a value. -/
theorem unique (hp : h.Unfolds v p) (hq : h.Unfolds v q) : p = q := by
  induction hp generalizing q with
  | nil | bool | int | str =>
    cases hq
    rfl
  | list tree hcell _ ih =>
    cases hq with
    | list tree' hcell' each' =>
      obtain rfl := Cell.list.inj (Option.some.inj (hcell.symm.trans hcell'))
      exact congrArg Picture.list (List.map_congr_left fun v hv => ih v hv (each' v hv))
    | dict tree' hcell' =>
      rw [hcell] at hcell'
      cases hcell'
  | dict tree hcell _ _ ihKeys ihValues =>
    cases hq with
    | list tree' hcell' =>
      rw [hcell] at hcell'
      cases hcell'
    | dict tree' hcell' keys' values' =>
      obtain rfl := Cell.dict.inj (Option.some.inj (hcell.symm.trans hcell'))
      refine congrArg Picture.dict (List.map_congr_left fun e he => ?_)
      rw [ihKeys e he (keys' e he), ihValues e he (values' e he)]

/-- **The path to a value**: the containers around it have larger trees. -/
def Under (h : Heap) (path : List Nat) (p : Picture) : Prop :=
  ∀ a ∈ path, ∃ q, h.Unfolds (.ref a) q ∧ sizeOf p < sizeOf q

/-- A container is not inside of itself. -/
theorem contains_eq_false {path : List Nat} {a : Nat} (hp : h.Unfolds (.ref a) p)
    (hpath : Under h path p) : path.contains a = false := by
  rw [Bool.eq_false_iff]
  intro hmem
  obtain ⟨q, hq, hlt⟩ := hpath a (by simpa using hmem)
  rw [hp.unique hq] at hlt
  exact absurd hlt (Nat.lt_irrefl _)

theorem Under.cons {path : List Nat} {a : Nat} (hp : h.Unfolds (.ref a) p)
    (hpath : Under h path p) (hlt : sizeOf q < sizeOf p) : Under h (a :: path) q := by
  intro b hb
  rcases List.mem_cons.mp hb with rfl | hb
  · exact ⟨p, hp, hlt⟩
  · obtain ⟨r, hr, hpr⟩ := hpath b hb
    exact ⟨r, hr, Nat.lt_trans hlt hpr⟩

/-- **The picture of plain data is its tree**: neither a cycle nor the bound on the depth is met. -/
theorem pictureIn_eq (env : String) (hp : h.Unfolds v p) {fuel : Nat} {path : List Nat}
    (hroom : HasRoom (List.range h.cells.size) path fuel) (hpath : Under h path p) :
    h.pictureIn env fuel path v = p := by
  induction hp generalizing fuel path with
  | nil | bool | int | str =>
    obtain ⟨fuel, rfl⟩ := hroom.exists_succ
    rfl
  | @list a items tree hcell heach ih =>
    obtain ⟨fuel, rfl⟩ := hroom.exists_succ
    have hlist : h.Unfolds (.ref a) (.list (items.map tree)) := .list tree hcell heach
    have hnew := hlist.contains_eq_false hpath
    have hinside := hroom.cons (List.mem_range.mpr (lt_size_of_cell? hcell)) (by simpa using hnew)
    simp only [pictureIn, hcell, hnew, Bool.false_eq_true, if_false]
    refine congrArg Picture.list (List.map_congr_left fun v hv => ih v hv hinside ?_)
    exact hpath.cons hlist (Picture.sizeOf_lt_list (List.mem_map_of_mem hv))
  | @dict a entries tree hcell hkeys hvalues ihKeys ihValues =>
    obtain ⟨fuel, rfl⟩ := hroom.exists_succ
    have hdict : h.Unfolds (.ref a) (.dict (entries.map fun e => (tree e.1, tree e.2))) :=
      .dict tree hcell hkeys hvalues
    have hnew := hdict.contains_eq_false hpath
    have hinside := hroom.cons (List.mem_range.mpr (lt_size_of_cell? hcell)) (by simpa using hnew)
    simp only [pictureIn, hcell, hnew, Bool.false_eq_true, if_false]
    refine congrArg Picture.dict (List.map_congr_left fun e he => ?_)
    have hmem : (tree e.1, tree e.2) ∈ entries.map fun e => (tree e.1, tree e.2) :=
      List.mem_map.mpr ⟨e, he, rfl⟩
    obtain ⟨hkey, hvalue⟩ := Picture.sizeOf_lt_dict hmem
    rw [ihKeys e he hinside (hpath.cons hdict hkey),
      ihValues e he hinside (hpath.cons hdict hvalue)]

/-- **The picture of plain data is its tree.** -/
theorem picture_eq (env : String) (hp : h.Unfolds v p) : h.picture env v = p := by
  have hsize := h.size_lt_depth
  refine hp.pictureIn_eq env (.start ?_) fun a ha => nomatch ha
  rw [List.length_range]
  omega

/-- Plain data has a text. -/
theorem hasHugeInt_eq_false (hp : h.Unfolds v p) : p.hasHugeInt = false := by
  induction hp with
  | nil | bool | str => rfl
  | int n hshort => exact hshort
  | list tree _ _ ih =>
    rw [Picture.hasHugeInt, Picture.anyHuge_eq_any, List.any_eq_false]
    simpa using ih
  | dict tree _ _ _ ihKeys ihValues =>
    rw [Picture.hasHugeInt, Picture.anyHugeEntry_eq_any, List.any_map, List.any_eq_false]
    intro e he
    simp [ihKeys e he, ihValues e he]

end Unfolds

end Heap

/-! ### The reader -/

namespace Printout

/-- What several things are read from, up to the bracket that closes them, if one of them is read by
`item`. -/
def readItems {α : Type} (item : List Char → Option (α × List Char)) (close : Char) :
    Nat → List Char → Option (List α × List Char)
  | 0, _ => none
  | k + 1, s =>
    if s.head? = some close then some ([], s.drop 1)
    else do
      let (a, s) ← item (if s.head? = some ',' then s.drop 2 else s)
      let (as, s) ← readItems item close k s
      return (a :: as, s)

/-- An entry of a dictionary, if keys and values are read by `value`. -/
def readEntry (value : List Char → Option (Picture × List Char)) (s : List Char) :
    Option ((Picture × Picture) × List Char) := do
  let (key, s) ← value s
  let (v, s) ← value (s.drop 4)
  return ((key, v), s)

/-- The picture of a literal. -/
def scalar : Literal → Picture
  | .nil => .nil
  | .bool b => .bool b
  | .int n => .int n
  | .float x _ => .float x

/-- **A value, and what comes behind it.** The number bounds how deep values lie within one another,
and how many stand side by side. -/
def readValue : Nat → List Char → Option (Picture × List Char)
  | 0, _ => none
  | k + 1, s =>
    if s.head? = some '"' then do
      let (t, s) ← readText (s.drop 1)
      return (.str (String.ofList t), s)
    else if s.head? = some '[' then do
      let (items, s) ← readItems (readValue k) ']' k (s.drop 1)
      return (.list items, s)
    else if s.head? = some '\x7b' then do
      let (entries, s) ← readItems (readEntry (readValue k)) '\x7d' k (s.drop 1)
      return (.dict entries, s)
    else do
      let l ← literal? (word s).1
      return (scalar l, (word s).2)

/-- **A value is over**: no character of words comes behind it. -/
def Ends (s : List Char) : Prop := ∀ c ∈ s.head?, isWordChar c = false

/-- A text begins like a value: neither with a comma nor with a bracket that closes something. -/
def Begins (s : List Char) : Prop := ∃ c t, s = c :: t ∧ c ∉ [',', ']', '\x7d']

theorem ends_cons {c : Char} (hc : isWordChar c = false) (s : List Char) : Ends (c :: s) := by
  rintro _ ⟨⟩
  exact hc

/-- The characters between brackets. -/
def listed {α : Type} (text : α → List Char) : List α → List Char
  | [] => []
  | a :: as => text a ++ as.flatMap fun b => ',' :: ' ' :: text b

section Items

variable {α : Type} {item : List Char → Option (α × List Char)} {close : Char} {text : α → List Char}

/-- What stands behind the first thing is read back. -/
theorem readItems_flatMap {as : List α} (hclose : isWordChar close = false ∧ close ≠ ',')
    (hitem : ∀ a ∈ as, ∀ rest, Ends rest → item (text a ++ rest) = some (a, rest))
    (rest : List Char) {k : Nat} (hk : as.length < k) :
    readItems item close k ((as.flatMap fun a => ',' :: ' ' :: text a) ++ close :: rest) =
      some (as, rest) := by
  induction as generalizing k with
  | nil =>
    obtain ⟨k, rfl⟩ := Nat.exists_eq_add_one.mpr (show 0 < k by omega)
    rw [List.flatMap_nil, List.nil_append, readItems, List.head?_cons, if_pos rfl]
    rfl
  | cons a as ih =>
    obtain ⟨k, rfl⟩ := Nat.exists_eq_add_one.mpr (show 0 < k by omega)
    have hrest := ih (fun b hb => hitem b (by simp [hb])) (k := k) (by simpa using hk)
    have hends : Ends ((as.flatMap fun a => ',' :: ' ' :: text a) ++ close :: rest) := by
      cases as with
      | nil => exact ends_cons hclose.1 _
      | cons b as => exact ends_cons (by decide) _
    simp only [List.flatMap_cons, List.cons_append, List.append_assoc]
    rw [readItems, List.head?_cons, if_neg (by simpa using hclose.2.symm), if_pos rfl,
      List.drop_succ_cons, List.drop_succ_cons, List.drop_zero, hitem a (by simp) _ hends]
    simp only [Option.bind_eq_bind, Option.bind_some, hrest]
    rfl

/-- **What stands between brackets is read back**, if each thing is. -/
theorem readItems_listed {as : List α} (hclose : close = ']' ∨ close = '\x7d')
    (hitem : ∀ a ∈ as, ∀ rest, Ends rest → item (text a ++ rest) = some (a, rest))
    (hbegins : ∀ a ∈ as, Begins (text a)) (rest : List Char) {k : Nat} (hk : as.length < k) :
    readItems item close k (listed text as ++ close :: rest) = some (as, rest) := by
  have hother : isWordChar close = false ∧ close ≠ ',' := by
    rcases hclose with rfl | rfl <;> decide
  cases as with
  | nil => exact readItems_flatMap hother hitem rest hk
  | cons a as =>
    obtain ⟨k, rfl⟩ := Nat.exists_eq_add_one.mpr (show 0 < k by omega)
    have htail (b : α) (hb : b ∈ as) := hitem b (List.mem_cons_of_mem a hb)
    have hrest := readItems_flatMap hother htail rest (k := k) (by simpa using hk)
    have hends : Ends ((as.flatMap fun a => ',' :: ' ' :: text a) ++ close :: rest) := by
      cases as with
      | nil => exact ends_cons hother.1 _
      | cons b as => exact ends_cons (by decide) _
    have hfirst := hitem a (by simp) _ hends
    obtain ⟨c, t, htext, hc⟩ := hbegins a (by simp)
    have hcClose : c ≠ close := by
      rintro rfl
      rcases hclose with rfl | rfl <;> simp at hc
    have hcComma : c ≠ ',' := by
      rintro rfl
      simp at hc
    rw [htext, List.cons_append] at hfirst
    rw [listed, htext, List.append_assoc, List.cons_append, readItems, List.head?_cons,
      if_neg (by simpa using hcClose), if_neg (by simpa using hcComma), hfirst]
    simp only [Option.bind_eq_bind, Option.bind_some, hrest]
    rfl

end Items

/-! ### Values are read back -/

/-- The characters of a value that is printed. -/
def chars (p : Picture) : List Char := p.printed.toList

/-- The characters of an entry. -/
def entryChars (e : Picture × Picture) : List Char :=
  chars e.1 ++ ' ' :: '=' :: '>' :: ' ' :: chars e.2

theorem toList_intercalate_map {α : Type} (text : α → String) (as : List α) :
    (", ".intercalate (as.map text)).toList = listed (fun a => (text a).toList) as := by
  cases as with
  | nil => rfl
  | cons a as =>
    rw [List.map_cons, toList_intercalate_cons, List.flatMap_map]
    rfl

theorem chars_str (s : String) :
    chars (.str s) = '"' :: (s.toList.flatMap quoteDouble.escape ++ ['"']) :=
  toList_quoteDouble s

theorem chars_list (items : List Picture) :
    chars (.list items) = '[' :: (listed chars items ++ [']']) := by
  rw [chars, Picture.printed, Picture.printedAll_eq_map, String.toList_append, String.toList_append,
    toList_intercalate_map]
  rfl

theorem chars_dict (entries : List (Picture × Picture)) :
    chars (.dict entries) = '\x7b' :: (listed entryChars entries ++ ['\x7d']) := by
  have hentry : entryChars = fun e => (e.1.printed ++ " => " ++ e.2.printed).toList := by
    funext e
    simp [entryChars, chars]
  rw [chars, Picture.printed, Picture.printedEntries_eq_map, String.toList_append,
    String.toList_append, toList_intercalate_map, hentry]
  rfl

theorem chars_scalar (l : Literal) : chars (scalar l) = l.printed.toList := by
  cases l <;> rfl

/-- The characters of a literal are those of a word, and none of them is a bracket or a quote. -/
theorem exists_chars_scalar {l : Literal} (hl : ∀ x digits, l ≠ .float x digits) :
    ∃ c t, chars (scalar l) = c :: t ∧ isWordChar c = true := by
  rw [chars_scalar]
  obtain ⟨c, t, hprinted, -⟩ := (Opens.of_literal hl).head
  exact ⟨c, t, hprinted, isWordChar_printed hl c (hprinted ▸ List.mem_cons_self)⟩

/-- A word begins like a value. -/
theorem begins_scalar {l : Literal} (hl : ∀ x digits, l ≠ .float x digits) :
    Begins (chars (scalar l)) := by
  obtain ⟨c, t, hchars, hc⟩ := exists_chars_scalar hl
  refine ⟨c, t, hchars, fun hmem => ?_⟩
  simp only [List.mem_cons, List.not_mem_nil, or_false] at hmem
  rcases hmem with rfl | rfl | rfl <;> exact absurd hc (by decide)

/-- **A word is read back.** -/
theorem readValue_scalar {l : Literal} (hl : ∀ x digits, l ≠ .float x digits) (k : Nat)
    {rest : List Char} (hrest : Ends rest) :
    readValue (k + 1) (chars (scalar l) ++ rest) = some (scalar l, rest) := by
  have hword := word_append (isWordChar_printed hl) hrest
  obtain ⟨c, t, hchars, hc⟩ := exists_chars_scalar hl
  have hne {d : Char} (hd : isWordChar d = false) : (chars (scalar l) ++ rest).head? ≠ some d := by
    rw [hchars, List.cons_append, List.head?_cons]
    rintro ⟨⟩
    rw [hd] at hc
    cases hc
  rw [readValue, if_neg (hne (by decide)), if_neg (hne (by decide)), if_neg (hne (by decide)),
    chars_scalar, hword, literal?_printed hl]
  rfl

/-- **A text is read back**, whatever is in it. -/
theorem readValue_str (s : String) (k : Nat) (rest : List Char) :
    readValue (k + 1) (chars (.str s) ++ rest) = some (.str s, rest) := by
  rw [chars_str, List.cons_append, List.append_assoc, List.singleton_append, readValue,
    List.head?_cons, if_pos rfl, List.drop_succ_cons, List.drop_zero, readText_escape]
  simp

/-- **An entry is read back**, if its key and its value are. -/
theorem readEntry_entryChars {value : List Char → Option (Picture × List Char)}
    {e : Picture × Picture}
    (hkey : ∀ rest, Ends rest → value (chars e.1 ++ rest) = some (e.1, rest))
    (hvalue : ∀ rest, Ends rest → value (chars e.2 ++ rest) = some (e.2, rest))
    (rest : List Char) (hrest : Ends rest) :
    readEntry value (entryChars e ++ rest) = some (e, rest) := by
  simp only [entryChars, List.append_assoc, List.cons_append]
  rw [readEntry, hkey _ (ends_cons (by decide) _)]
  simp only [Option.bind_eq_bind, Option.bind_some, List.drop_succ_cons, List.drop_zero,
    hvalue rest hrest]
  rfl

/-- **A list is read back**, if its items are. -/
theorem readValue_list {items : List Picture} {k : Nat} (hk : items.length < k)
    (hitem : ∀ p ∈ items, ∀ rest, Ends rest → readValue k (chars p ++ rest) = some (p, rest))
    (hbegins : ∀ p ∈ items, Begins (chars p)) (rest : List Char) :
    readValue (k + 1) (chars (.list items) ++ rest) = some (.list items, rest) := by
  rw [chars_list, List.cons_append, List.append_assoc, List.singleton_append, readValue,
    List.head?_cons, if_neg (by decide), if_pos rfl, List.drop_succ_cons, List.drop_zero,
    readItems_listed (.inl rfl) hitem hbegins rest hk]
  rfl

/-- **A dictionary is read back**, if its keys and its values are. -/
theorem readValue_dict {entries : List (Picture × Picture)} {k : Nat} (hk : entries.length < k)
    (hkey : ∀ e ∈ entries, ∀ rest, Ends rest → readValue k (chars e.1 ++ rest) = some (e.1, rest))
    (hvalue : ∀ e ∈ entries, ∀ rest, Ends rest →
      readValue k (chars e.2 ++ rest) = some (e.2, rest))
    (hbegins : ∀ e ∈ entries, Begins (chars e.1)) (rest : List Char) :
    readValue (k + 1) (chars (.dict entries) ++ rest) = some (.dict entries, rest) := by
  have hentry (e : Picture × Picture) (he : e ∈ entries) :=
    readEntry_entryChars (hkey e he) (hvalue e he)
  have hentryBegins (e : Picture × Picture) (he : e ∈ entries) : Begins (entryChars e) := by
    obtain ⟨c, t, hchars, hc⟩ := hbegins e he
    exact ⟨c, _, by rw [entryChars, hchars, List.cons_append], hc⟩
  rw [chars_dict, List.cons_append, List.append_assoc, List.singleton_append, readValue,
    List.head?_cons, if_neg (by decide), if_neg (by decide), if_pos rfl, List.drop_succ_cons,
    List.drop_zero, readItems_listed (.inr rfl) hentry hentryBegins rest hk]
  rfl

/-- There are no more things in a list than its size. -/
theorem length_lt_sizeOf {α : Type} [SizeOf α] (as : List α) : as.length < sizeOf as := by
  induction as with
  | nil => simp
  | cons a as ih =>
    rw [List.length_cons, List.cons.sizeOf_spec]
    omega

/-- What is printed of plain data begins like a value. -/
theorem begins_chars {h : Heap} {v : Value} {p : Picture} (hp : h.Unfolds v p) :
    Begins (chars p) := by
  cases hp with
  | nil => exact @begins_scalar .nil (by simp)
  | bool b => exact @begins_scalar (.bool b) (by simp)
  | int n => exact @begins_scalar (.int n) (by simp)
  | str s =>
    rw [chars_str]
    exact ⟨'"', _, rfl, by decide⟩
  | list =>
    rw [chars_list]
    exact ⟨'[', _, rfl, by decide⟩
  | dict =>
    rw [chars_dict]
    exact ⟨'\x7b', _, rfl, by decide⟩

/-- **The reader undoes the printer**: what is printed of plain data is read back, whatever comes
behind it, if only the last word is over there. -/
theorem readValue_printed {h : Heap} {v : Value} {p : Picture} (hp : h.Unfolds v p) {k : Nat}
    (hk : sizeOf p < k) {rest : List Char} (hrest : Ends rest) :
    readValue k (chars p ++ rest) = some (p, rest) := by
  induction hp generalizing k rest with
  | nil =>
    obtain ⟨k, rfl⟩ := Nat.exists_eq_add_one.mpr (show 0 < k by omega)
    exact @readValue_scalar .nil (by simp) k rest hrest
  | bool b =>
    obtain ⟨k, rfl⟩ := Nat.exists_eq_add_one.mpr (show 0 < k by omega)
    exact @readValue_scalar (.bool b) (by simp) k rest hrest
  | int n =>
    obtain ⟨k, rfl⟩ := Nat.exists_eq_add_one.mpr (show 0 < k by omega)
    exact @readValue_scalar (.int n) (by simp) k rest hrest
  | str s =>
    obtain ⟨k, rfl⟩ := Nat.exists_eq_add_one.mpr (show 0 < k by omega)
    exact readValue_str s k rest
  | @list a items tree _ heach ih =>
    obtain ⟨k, rfl⟩ := Nat.exists_eq_add_one.mpr (show 0 < k by omega)
    have hlength := length_lt_sizeOf (items.map tree)
    rw [Picture.list.sizeOf_spec] at hk
    refine readValue_list (by omega) (fun p hp rest hrest => ?_) (fun p hp => ?_) rest
    · have hsize := List.sizeOf_lt_of_mem hp
      obtain ⟨v, hv, rfl⟩ := List.mem_map.mp hp
      exact ih v hv (by omega) hrest
    · obtain ⟨v, hv, rfl⟩ := List.mem_map.mp hp
      exact begins_chars (heach v hv)
  | @dict a entries tree _ hkeys hvalues ihKeys ihValues =>
    obtain ⟨k, rfl⟩ := Nat.exists_eq_add_one.mpr (show 0 < k by omega)
    have hlength := length_lt_sizeOf (entries.map fun e => (tree e.1, tree e.2))
    rw [Picture.dict.sizeOf_spec] at hk
    refine readValue_dict (by omega) (fun e he rest hrest => ?_) (fun e he rest hrest => ?_)
      (fun e he => ?_) rest
    · obtain ⟨d, hd, rfl⟩ := List.mem_map.mp he
      obtain ⟨hkey, -⟩ := Picture.sizeOf_lt_dict he
      rw [Picture.dict.sizeOf_spec] at hkey
      exact ihKeys d hd (by omega) hrest
    · obtain ⟨d, hd, rfl⟩ := List.mem_map.mp he
      obtain ⟨-, hvalue⟩ := Picture.sizeOf_lt_dict he
      rw [Picture.dict.sizeOf_spec] at hvalue
      exact ihValues d hd (by omega) hrest
    · obtain ⟨d, hd, rfl⟩ := List.mem_map.mp he
      exact begins_chars (hkeys d hd)

end Printout

namespace World

variable {w w' : World} {v v' : Value} {p p' : Picture}

/-- Plain data is printed as its tree is. -/
theorem printed_of_unfolds (hp : w.heap.Unfolds v p) : w.printed v = .ok p.printed := by
  rw [printed, picture, hp.picture_eq, hp.hasHugeInt_eq_false]
  rfl

/-- **Printed values are unambiguous.** Let two values be plain data, in the same world or in
different ones: nil, truth values, integers that have a text, texts, and lists and dictionaries of
such values that do not hold themselves. Both have a text, and it is the same one exactly if they
are equal, with the same items and entries in the same order. -/
theorem printed_unambiguous (hp : w.heap.Unfolds v p) (hp' : w'.heap.Unfolds v' p') :
    ∃ text, w.printed v = .ok text ∧ (w'.printed v' = .ok text ↔ p' = p) := by
  refine ⟨p.printed, printed_of_unfolds hp, ?_⟩
  rw [printed_of_unfolds hp', Except.ok.injEq]
  refine ⟨fun htext => ?_, congrArg Picture.printed⟩
  have hends : Printout.Ends [] := fun c hc => nomatch hc
  have hread := Printout.readValue_printed hp (k := sizeOf p + sizeOf p' + 1) (by omega) hends
  have hread' := Printout.readValue_printed hp' (k := sizeOf p + sizeOf p' + 1) (by omega) hends
  rw [Printout.chars, htext] at hread'
  exact (Prod.mk.inj (Option.some.inj (hread'.symm.trans hread))).1

/-- A list of a text, in which there is a comma, and a dictionary of one entry. -/
def ledger (key : Value) : World :=
  { start .standard "" with heap := ⟨#[.list [.text "a, b", .ref 1], .dict [(key, .nil)]], 0⟩ }

/-- It unfolds to what can be seen of it. -/
theorem unfolds_ledger {key : Value} {p : Picture} (hkey : (ledger key).heap.Unfolds key p) :
    (ledger key).heap.Unfolds (.ref 0) (.list [.str "a, b", .dict [(p, .nil)]]) := by
  have hdict : (ledger key).heap.Unfolds (.ref 1) (.dict [(p, .nil)]) := by
    have hcell : (ledger key).heap.cell? 1 = some (.dict [(key, .nil)]) := rfl
    obtain rfl := hkey.picture_eq ""
    exact .dict ((ledger key).heap.picture "") hcell (List.forall_mem_singleton.mpr hkey)
      (List.forall_mem_singleton.mpr .nil)
  have hcell : (ledger key).heap.cell? 0 = some (.list [.text "a, b", .ref 1]) := rfl
  have hitem := hdict.picture_eq ""
  rw [← hitem] at hdict ⊢
  exact .list ((ledger key).heap.picture "") hcell
    (List.forall_mem_cons.mpr ⟨.str "a, b" none, List.forall_mem_singleton.mpr hdict⟩)

/-- A text is not printed like the value that it looks like. -/
theorem printed_unambiguous_of_ledger :
    ∃ text, (ledger (.bool true)).printed (.ref 0) = .ok text ∧
      (ledger (.text "true")).printed (.ref 0) ≠ .ok text := by
  obtain ⟨text, htext, hsame⟩ := printed_unambiguous (unfolds_ledger (.bool true))
    (unfolds_ledger (.str "true" none))
  refine ⟨text, htext, fun h => ?_⟩
  have hequal := hsame.mp h
  simp at hequal

end World

end Treewalk
