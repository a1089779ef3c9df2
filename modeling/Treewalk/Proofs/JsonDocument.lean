import Treewalk.Proofs.JsonText
import Treewalk.Proofs.Loading

/-!
# Documents as JSON texts and back

A document is more than what is written down of it: its labels say which of its parts are one
object. A JSON text has no labels, so a document that is read from one gets labels of its own, all
of them different. What a document has in common with what is read from its text is the rest of it
(`Treewalk.Document.unlabelled`), and this is all of its values, in their order.

The documents that JSON has a form for (`Treewalk.Document.IsJson`) are those made of scalars, lists
and mappings from texts. A label must not occur inside a part that has it, since such a part would
hold itself. None does after the labels are given anew (`Treewalk.Document.IsJson.numberFrom`).

* **`Treewalk.Json.exists_writeValue`**: a document is written, and read back.
* **`Treewalk.Format.detect_of_bracket`**: what begins with a bracket is JSON without being said to
  be.
* **`Treewalk.Document.IsJson.exists_write`**: the two together, for whole texts.
-/

namespace Treewalk

namespace Document

/-! ### Documents without labels -/

mutual

/-- **A document without its labels**: which of its parts are one object is not said. -/
def unlabelled : Document → Document
  | .literal l => .literal l
  | .str s => .str s
  | .date _ day => .date none day
  | .moment _ time => .moment none time
  | .list _ items => .list none (unlabelledItems items)
  | .mapping _ entries => .mapping none (unlabelledEntries entries)
  | .back label isList => .back label isList

/-- The items of a list without labels. -/
def unlabelledItems : List Document → List Document
  | [] => []
  | d :: rest => unlabelled d :: unlabelledItems rest

/-- The entries of a mapping without labels. -/
def unlabelledEntries : List (Document × Document) → List (Document × Document)
  | [] => []
  | (k, v) :: rest => (unlabelled k, unlabelled v) :: unlabelledEntries rest

end

theorem unlabelledItems_eq_map (items : List Document) :
    unlabelledItems items = items.map unlabelled := by
  induction items with
  | nil => rfl
  | cons d rest ih => rw [unlabelledItems, ih, List.map_cons]

theorem unlabelledEntries_named (entries : List (String × Document)) :
    unlabelledEntries (named entries) = named (entries.map fun e => (e.1, e.2.unlabelled)) := by
  induction entries with
  | nil => rfl
  | cons e rest ih =>
    rw [named, List.map_cons, unlabelledEntries]
    exact congrArg _ ih

mutual

/-- New labels are no more than labels. -/
theorem unlabelled_numberFrom (d : Document) (n : Nat) :
    (numberFrom d n).1.unlabelled = d.unlabelled := by
  match d with
  | .list label items => exact congrArg (Document.list none) (unlabelledItems_numberItems items _)
  | .mapping label entries =>
    exact congrArg (Document.mapping none) (unlabelledEntries_numberEntries entries _)
  | .literal _ | .str _ | .date _ _ | .moment _ _ | .back _ _ => rfl

theorem unlabelledItems_numberItems (items : List Document) (n : Nat) :
    unlabelledItems (numberItems items n).1 = unlabelledItems items := by
  match items with
  | [] => rfl
  | d :: rest =>
    exact congrArg₂ List.cons (unlabelled_numberFrom d n) (unlabelledItems_numberItems rest _)

theorem unlabelledEntries_numberEntries (entries : List (Document × Document)) (n : Nat) :
    unlabelledEntries (numberEntries entries n).1 = unlabelledEntries entries := by
  match entries with
  | [] => rfl
  | (k, v) :: rest =>
    exact congrArg₂ List.cons (congrArg (Prod.mk k.unlabelled) (unlabelled_numberFrom v n))
      (unlabelledEntries_numberEntries rest _)

end

mutual

theorem unlabelled_unlabelled (d : Document) : d.unlabelled.unlabelled = d.unlabelled := by
  match d with
  | .list label items => exact congrArg (Document.list none) (unlabelledItems_unlabelledItems items)
  | .mapping label entries =>
    exact congrArg (Document.mapping none) (unlabelledEntries_unlabelledEntries entries)
  | .literal _ | .str _ | .date _ _ | .moment _ _ | .back _ _ => rfl

theorem unlabelledItems_unlabelledItems (items : List Document) :
    unlabelledItems (unlabelledItems items) = unlabelledItems items := by
  match items with
  | [] => rfl
  | d :: rest =>
    exact congrArg₂ List.cons (unlabelled_unlabelled d) (unlabelledItems_unlabelledItems rest)

theorem unlabelledEntries_unlabelledEntries (entries : List (Document × Document)) :
    unlabelledEntries (unlabelledEntries entries) = unlabelledEntries entries := by
  match entries with
  | [] => rfl
  | (k, v) :: rest =>
    exact congrArg₂ List.cons
      (congrArg₂ Prod.mk (unlabelled_unlabelled k) (unlabelled_unlabelled v))
      (unlabelledEntries_unlabelledEntries rest)

end

/-! ### Documents of JSON -/

/-- **A document that JSON has a form for**, inside the parts whose labels are given. No part holds
itself. -/
inductive IsJson : List Nat → Document → Prop
  /-- Nil. -/
  | nil {path : List Nat} : IsJson path (.literal .nil)
  /-- A truth value. -/
  | bool {path : List Nat} (b : Bool) : IsJson path (.literal (.bool b))
  /-- An integer that has not too many digits. -/
  | int {path : List Nat} {n : Int} : Decimal.isTooLong n = false → IsJson path (.literal (.int n))
  /-- A text, whatever is in it. -/
  | str {path : List Nat} (s : String) : IsJson path (.str s)
  /-- A list of such documents. -/
  | list {path : List Nat} {label : Option Nat} {items : List Document} :
      isOpen label path = false → (∀ d ∈ items, IsJson (inside label path) d) →
      IsJson path (.list label items)
  /-- A mapping to such documents, from texts no two of which are equal. -/
  | mapping {path : List Nat} {label : Option Nat} {entries : List (String × Document)} :
      isOpen label path = false → (entries.map Prod.fst).Nodup →
      (∀ e ∈ entries, IsJson (inside label path) e.2) → IsJson path (.mapping label (named entries))

end Document

namespace Json

open Document

variable {pretty : Bool} {level : Nat} {path : List Nat}

theorem exists_writeItems {items : List Document}
    (h : ∀ d ∈ items, ∃ t, writeValue pretty level path d = .ok t ∧ Reads d.unlabelled t) :
    ∃ ts, List.Forall₂ Reads (items.map unlabelled) ts ∧
      writeItems pretty level path items = .ok ((separator pretty level).intercalate ts) := by
  induction items with
  | nil => exact ⟨[], .nil, by rw [writeItems]; rfl⟩
  | cons d rest ih =>
    obtain ⟨t, hwrite, hreads⟩ := h d (by simp)
    obtain ⟨ts, hrest, hwritten⟩ := ih fun e he => h e (by simp [he])
    refine ⟨t :: ts, .cons hreads hrest, ?_⟩
    cases rest with
    | nil =>
      cases hrest
      rw [writeItems, hwrite, List.intercalate_singleton]
    | cons e rest =>
      cases hrest with
      | cons =>
        rw [writeItems, hwrite, hwritten, List.intercalate_cons_cons]
        rfl

theorem exists_writeEntries {entries : List (String × Document)}
    (h : ∀ e ∈ entries, ∃ t, writeValue pretty level path e.2 = .ok t ∧ Reads e.2.unlabelled t) :
    ∃ us, List.Forall₂ EntryReads (entries.map fun e => (e.1, e.2.unlabelled)) us ∧
      writeEntries pretty level path (named entries) =
        .ok ((separator pretty level).intercalate us) := by
  induction entries with
  | nil => exact ⟨[], .nil, by rw [named, List.map_nil, writeEntries]; rfl⟩
  | cons e rest ih =>
    obtain ⟨t, hwrite, hreads⟩ := h e (by simp)
    obtain ⟨us, hrest, hwritten⟩ := ih fun e he => h e (by simp [he])
    refine ⟨entryText e.1 t :: us, .cons ⟨t, rfl, hreads⟩ hrest, ?_⟩
    rw [named, List.map_cons, writeEntries, keyText, hwrite]
    cases rest with
    | nil =>
      cases hrest
      rw [List.intercalate_singleton]
      rfl
    | cons e' rest =>
      cases hrest with
      | cons =>
        rw [named] at hwritten
        rw [hwritten, List.intercalate_cons_cons]
        rfl

/-- **A document is written, and read back.** -/
theorem exists_writeValue (pretty : Bool) {d : Document} (h : IsJson path d) :
    ∀ level, ∃ t, writeValue pretty level path d = .ok t ∧ Reads d.unlabelled t := by
  induction h with
  | nil => exact fun level => ⟨_, by rw [writeValue]; rfl, reads_nil⟩
  | bool b => exact fun level => ⟨_, by rw [writeValue]; rfl, reads_bool b⟩
  | @int _ n hn =>
    refine fun level => ⟨_, ?_, reads_int hn⟩
    rw [writeValue, literalText, hn]
    rfl
  | str s => exact fun level => ⟨_, by rw [writeValue], reads_str s⟩
  | @list path label items hopen _ ih =>
    intro level
    obtain ⟨ts, hts, hwritten⟩ := exists_writeItems fun d hd => ih d hd (level + 1)
    rw [unlabelled, unlabelledItems_eq_map, writeValue]
    cases items with
    | nil => exact ⟨_, rfl, reads_noItems⟩
    | cons d rest =>
      have hne : ts ≠ [] := by
        rintro rfl
        cases hts
      simp only [List.isEmpty_cons, hopen, Bool.false_eq_true, if_false, hwritten]
      exact ⟨_, rfl, reads_list hts hne (blank_gap _ _) (blank_gap _ _)⟩
  | @mapping path label entries hopen hnames _ ih =>
    intro level
    obtain ⟨us, hus, hwritten⟩ := exists_writeEntries fun e he => ih e he (level + 1)
    rw [unlabelled, unlabelledEntries_named, writeValue]
    cases entries with
    | nil => exact ⟨_, rfl, reads_noEntries⟩
    | cons e rest =>
      have hne : us ≠ [] := by
        rintro rfl
        cases hus
      have hcons : (named (e :: rest)).isEmpty = false := rfl
      simp only [hcons, hopen, Bool.false_eq_true, if_false, hwritten]
      refine ⟨_, rfl, reads_mapping hus hne ?_ (blank_gap _ _) (blank_gap _ _)⟩
      rwa [List.map_map]

/-- A text that is written is a text that is read. -/
theorem Reads.readText {d : Document} {t : List Char} (h : Reads d t) : readText t = .ok d := by
  obtain ⟨c, s, rfl, hspace, hmark⟩ := h.starts
  have hread := h.reads (2 * (c :: s).length + 2) [] (by omega) over_nil
  rw [List.append_nil] at hread
  have hc : c ≠ Char.ofNat 0xFEFF := fun hc => hmark (by simp [hc])
  rw [Json.readText, if_neg hc, skip_of_head hspace, hread]
  rfl

end Json

namespace Document

/-! ### Labels of their own -/

mutual

/-- Labels are counted up. -/
theorem le_numberFrom (d : Document) (n : Nat) : n ≤ (numberFrom d n).2 := by
  match d with
  | .list label items => exact Nat.le_of_succ_le (le_numberItems items (n + 1))
  | .mapping label entries => exact Nat.le_of_succ_le (le_numberEntries entries (n + 1))
  | .literal _ | .str _ | .date _ _ | .moment _ _ | .back _ _ => exact Nat.le_refl n

theorem le_numberItems (items : List Document) (n : Nat) : n ≤ (numberItems items n).2 := by
  match items with
  | [] => exact Nat.le_refl n
  | d :: rest => exact Nat.le_trans (le_numberFrom d n) (le_numberItems rest _)

theorem le_numberEntries (entries : List (Document × Document)) (n : Nat) :
    n ≤ (numberEntries entries n).2 := by
  match entries with
  | [] => exact Nat.le_refl n
  | (k, v) :: rest => exact Nat.le_trans (le_numberFrom v n) (le_numberEntries rest _)

end

/-- Each item is numbered from some number on. -/
theorem forall_mem_numberItems {P : Document → Prop} {items : List Document} {n : Nat}
    (h : ∀ d ∈ items, ∀ m, n ≤ m → P (numberFrom d m).1) :
    ∀ e ∈ (numberItems items n).1, P e := by
  induction items generalizing n with
  | nil => exact fun _ he => nomatch he
  | cons d rest ih =>
    intro e he
    rcases List.mem_cons.mp he with rfl | he
    · exact h d (by simp) n (Nat.le_refl n)
    · refine ih (fun d' hd m hm => h d' (by simp [hd]) m ?_) e he
      exact Nat.le_trans (le_numberFrom d n) hm

/-- Each value is numbered from some number on, and the names stay. -/
theorem exists_numberEntries {P : Document → Prop} {entries : List (String × Document)} {n : Nat}
    (h : ∀ e ∈ entries, ∀ m, n ≤ m → P (numberFrom e.2 m).1) :
    ∃ entries', (numberEntries (named entries) n).1 = named entries' ∧
      entries'.map Prod.fst = entries.map Prod.fst ∧ ∀ e ∈ entries', P e.2 := by
  induction entries generalizing n with
  | nil => exact ⟨[], rfl, rfl, by simp⟩
  | cons e rest ih =>
    obtain ⟨rest', heq, hnames, hP⟩ := @ih (numberFrom e.2 n).2 fun e' he m hm =>
      h e' (by simp [he]) m (Nat.le_trans (le_numberFrom e.2 n) hm)
    refine ⟨(e.1, (numberFrom e.2 n).1) :: rest', ?_, ?_, ?_⟩
    · rw [named, List.map_cons, numberEntries]
      exact congrArg _ heq
    · simp [hnames]
    · exact List.forall_mem_cons.mpr ⟨h e (by simp) n (Nat.le_refl n), hP⟩

/-- A number that is larger than all labels is not among them. -/
theorem isOpen_of_lt {n : Nat} {path : List Nat} (h : ∀ l ∈ path, l < n) :
    isOpen (some n) path = false := by
  simp only [isOpen, Option.elim_some, List.contains_eq_mem, decide_eq_false_iff_not]
  exact fun hmem => Nat.lt_irrefl n (h n hmem)

theorem lt_of_mem_inside {n m : Nat} {path : List Nat} (h : ∀ l ∈ path, l < n) (hm : n + 1 ≤ m) :
    ∀ l ∈ inside (some n) path, l < m := by
  intro l hl
  rcases List.mem_cons.mp hl with rfl | hl
  · exact hm
  · exact Nat.lt_trans (h l hl) hm

/-- **A document of JSON stays one when its parts get labels** that nothing around them has. -/
theorem IsJson.numberFrom {path : List Nat} {d : Document} (h : IsJson path d) :
    ∀ {n : Nat} {around : List Nat}, (∀ l ∈ around, l < n) →
      IsJson around (Document.numberFrom d n).1 := by
  induction h with
  | nil => exact fun _ => .nil
  | bool b => exact fun _ => .bool b
  | int hn => exact fun _ => .int hn
  | str s => exact fun _ => .str s
  | list _ _ ih =>
    intro n around haround
    exact .list (isOpen_of_lt haround) (forall_mem_numberItems fun d hd m hm =>
      ih d hd (lt_of_mem_inside haround hm))
  | @mapping _ _ entries _ hnames _ ih =>
    intro n around haround
    obtain ⟨entries', heq, hsame, hvalues⟩ := exists_numberEntries fun e he m hm =>
      ih e he (lt_of_mem_inside haround hm)
    have hmapping := IsJson.mapping (isOpen_of_lt haround) (hsame ▸ hnames) hvalues
    rw [← heq] at hmapping
    exact hmapping

/-- **A document of JSON stays one without its labels.** -/
theorem IsJson.unlabelled {path : List Nat} {d : Document} (h : IsJson path d) :
    ∀ around, IsJson around d.unlabelled := by
  induction h with
  | nil => exact fun _ => .nil
  | bool b => exact fun _ => .bool b
  | int hn => exact fun _ => .int hn
  | str s => exact fun _ => .str s
  | list _ _ ih =>
    intro around
    rw [Document.unlabelled, unlabelledItems_eq_map]
    refine .list rfl fun d hd => ?_
    obtain ⟨item, hitem, rfl⟩ := List.mem_map.mp hd
    exact ih item hitem _
  | mapping _ hnames _ ih =>
    intro around
    rw [Document.unlabelled, unlabelledEntries_named]
    refine .mapping rfl (by rwa [List.map_map]) fun e he => ?_
    obtain ⟨entry, hentry, rfl⟩ := List.mem_map.mp he
    exact ih entry hentry _

/-! ### Texts of documents -/

/-- Whether a document has parts: it is a list or a mapping. -/
def IsContainer : Document → Prop
  | .list _ _ | .mapping _ _ => True
  | _ => False

/-- What a list or a mapping is written as begins with its bracket. -/
theorem head?_writeValue {pretty : Bool} {level : Nat} {path : List Nat} {d : Document}
    {t : List Char} (hd : d.IsContainer) (h : Json.writeValue pretty level path d = .ok t) :
    t.head? = some '[' ∨ t.head? = some '\x7b' := by
  match d with
  | .list label items =>
    rw [Json.writeValue] at h
    split at h
    · cases h
      exact .inl rfl
    split at h
    · cases h
    · cases hbody : Json.writeItems pretty (level + 1) (inside label path) items with
      | error m =>
        rw [hbody] at h
        cases h
      | ok body =>
        rw [hbody] at h
        cases h
        exact .inl rfl
  | .mapping label entries =>
    rw [Json.writeValue] at h
    split at h
    · cases h
      exact .inr rfl
    split at h
    · cases h
    · cases hbody : Json.writeEntries pretty (level + 1) (inside label path) entries with
      | error m =>
        rw [hbody] at h
        cases h
      | ok body =>
        rw [hbody] at h
        cases h
        exact .inr rfl

end Document

/-- **A text that begins with a bracket is JSON**, unless the name of its file says otherwise. -/
theorem Format.detect_of_bracket {s : String} {file : Option String}
    (hfile : endsIn [".yaml", ".yml"] (Text.toLower (file.getD "").toList) = false)
    (hs : s.toList.head? = some '[' ∨ s.toList.head? = some '\x7b') :
    detect (some s) file = .json := by
  have hbracket : Text.isBlank '[' = false ∧ Text.isBlank '\x7b' = false := by decide
  unfold detect
  dsimp only
  split
  · rfl
  · rw [if_neg (by simp [hfile])]
    obtain hs | hs := hs
    · obtain ⟨rest, hrest⟩ := List.head?_eq_some_iff.mp hs
      simp [hrest, Text.stripLeft, hbracket]
    · obtain ⟨rest, hrest⟩ := List.head?_eq_some_iff.mp hs
      simp [hrest, Text.stripLeft, hbracket]

namespace Document

/-- With a name of a format, the document is read in that format. -/
theorem read_of_ofName? {name : String} {format : Format} (hne : name ≠ "")
    (hname : Format.ofName? name = some format) (file : Option String) (source : Source) :
    read (some name) file source =
      match format with
      | .json => readJson file source.toText
      | .yaml => readYaml file source.toText := by
  simp only [read, hname]
  cases format <;> rfl

theorem write_json (pretty : Bool) (d : Document) :
    write (some "json") pretty d = Json.write pretty d := by
  have hname : Format.ofName? "json" = some .json := Format.ofName?_name .json
  simp only [write, Option.bind_some, hname]

theorem read_detected {file : Option String} {source : Source}
    (h : Format.detect (some source.toText) file = .json) :
    read none file source = readJson file source.toText := by
  simp only [read, h]

/-- **A document of JSON is written as a text that is read as the document**, apart from its
labels. -/
theorem IsJson.exists_write {d : Document} (h : d.IsJson []) (pretty : Bool) :
    ∃ s, write (some "json") pretty d = .ok s ∧
      (∀ file, read (some "json") file (.text s) = .ok d.unlabelled.numbered) ∧
      (d.IsContainer → ∀ file,
        Format.endsIn [".yaml", ".yml"] (Text.toLower (file.getD "").toList) = false →
        read none file (.text s) = .ok d.unlabelled.numbered) := by
  obtain ⟨t, hwrite, hreads⟩ := Json.exists_writeValue pretty h 0
  have hread (file : Option String) :
      readJson file (String.ofList t) = .ok d.unlabelled.numbered := by
    simp only [readJson, Json.read, String.toList_ofList, hreads.readText]
  refine ⟨String.ofList t, ?_, fun file => ?_, fun hcontainer file hfile => ?_⟩
  · rw [write_json, Json.write, hwrite]
    rfl
  · exact (read_of_ofName? (by decide) (Format.ofName?_name .json) file _).trans (hread file)
  · have hbracket := head?_writeValue hcontainer hwrite
    rw [← String.toList_ofList (l := t)] at hbracket
    have hdetect : Format.detect (some (Source.text (String.ofList t)).toText) file = .json :=
      Format.detect_of_bracket hfile hbracket
    exact (read_detected hdetect).trans (hread file)

-- the two layouts
example : (write (some "json") false (.mapping none
      (named [("a", .list none []), ("b\n", .int (-1))]))).toOption =
    some "\x7b\"a\": [], \"b\\n\": -1\x7d" := by decide +kernel

example : (write (some "json") true (.list none [.mapping none [], .list none [.nil]])).toOption =
    some "[\n  \x7b\x7d,\n  [\n    null\n  ]\n]" := by decide +kernel

end Document

end Treewalk
