import Treewalk.Proofs.Grammar
import Treewalk.Proofs.Relabelling

/-!
# Programs as JSON texts

The dump of a program can be written as a JSON text, and the text can be run. What is run then is
not the dump, but a document that was read: the two are the same but for their labels
(`Treewalk.Document.Twin`). The reader of programs takes the same way through both. It looks for
what is under a name, and what it finds are twins again (`Treewalk.Document.TwinEntries`). So it
builds two programs that are the same but for the labels in their places, and these run alike
(`Treewalk.Runner.run_relabelled`).

That twins are written alike is where it matters that no part of a document holds itself: only then
are all parts shown (`Treewalk.Document.IsJson.shownIn_unlabelled`).

* **`Treewalk.Program.readNode_twin`**: a node is read alike from twins.
* **`Treewalk.Program.isJson_dump`**: which programs have a dump that JSON has a form for.
* **`Treewalk.Document.IsJson.roundTrip`**: the law of JSON texts.
-/

namespace Treewalk

namespace Document

/-! ### Documents that differ in labels -/

theorem inside_subset {label : Option Nat} {path path' : List Nat} (h : path' ⊆ path) :
    inside label path' ⊆ inside label path := by
  cases label with
  | none => exact h
  | some l => exact List.cons_subset_cons l h

theorem isOpen_of_subset {label : Option Nat} {path path' : List Nat} (h : path' ⊆ path)
    (hopen : isOpen label path = false) : isOpen label path' = false := by
  cases label with
  | none => rfl
  | some l =>
    simp only [isOpen, Option.elim_some, List.contains_eq_mem, decide_eq_false_iff_not] at hopen ⊢
    exact fun hmem => hopen (h hmem)

namespace IsJson

/-- Inside fewer parts, a document holds itself less than ever. -/
theorem mono {path : List Nat} {d : Document} (h : IsJson path d) :
    ∀ {path' : List Nat}, path' ⊆ path → IsJson path' d := by
  induction h with
  | nil => exact fun _ => .nil
  | bool b => exact fun _ => .bool b
  | int hn => exact fun _ => .int hn
  | str s => exact fun _ => .str s
  | list hopen _ ih =>
    exact fun hsub => .list (isOpen_of_subset hsub hopen) fun d hd => ih d hd (inside_subset hsub)
  | mapping hopen hnames _ ih =>
    exact fun hsub => .mapping (isOpen_of_subset hsub hopen) hnames fun e he =>
      ih e he (inside_subset hsub)

/-- The items of a list, each by itself. -/
theorem items {path : List Nat} {label : Option Nat} {items : List Document}
    (h : IsJson path (.list label items)) : ∀ d ∈ items, IsJson [] d := by
  cases h with
  | list _ hitems => exact fun d hd => (hitems d hd).mono (List.nil_subset _)

/-- The entries of a mapping are under texts, and each is a document by itself. -/
theorem entries {path : List Nat} {label : Option Nat} {entries : List (Document × Document)}
    (h : IsJson path (.mapping label entries)) :
    ∃ es, entries = named es ∧ ∀ e ∈ es, IsJson [] e.2 := by
  cases h with
  | @mapping _ _ es _ _ hes => exact ⟨es, rfl, fun e he => (hes e he).mono (List.nil_subset _)⟩

/-- **A document that does not hold itself is shown without its labels.** -/
theorem shownIn_unlabelled {path : List Nat} {d : Document} (h : IsJson path d) :
    ∀ around, shownIn around d.unlabelled = shownIn path d := by
  induction h with
  | nil => exact fun _ => rfl
  | bool b => exact fun _ => rfl
  | int _ => exact fun _ => rfl
  | str s => exact fun _ => rfl
  | @list path label items hopen _ ih =>
    intro around
    have hitems (items : List Document) (ih : ∀ d ∈ items, ∀ around,
        shownIn around d.unlabelled = shownIn (inside label path) d) :
        shownItems around (unlabelledItems items) = shownItems (inside label path) items := by
      induction items with
      | nil => rfl
      | cons d rest hrest =>
        rw [unlabelledItems, shownItems, shownItems, ih d (by simp) around,
          hrest fun d hd => ih d (by simp [hd])]
    rw [Document.unlabelled, shownIn, shownIn, hopen]
    exact congrArg (fun s => "[" ++ ", ".intercalate s ++ "]") (hitems items ih)
  | @mapping path label entries hopen _ _ ih =>
    intro around
    have hentries (es : List (String × Document)) (ih : ∀ e ∈ es, ∀ around,
        shownIn around e.2.unlabelled = shownIn (inside label path) e.2) :
        shownEntries around (unlabelledEntries (named es)) =
          shownEntries (inside label path) (named es) := by
      induction es with
      | nil => rfl
      | cons e rest hrest =>
        have hrest' := hrest fun e he => ih e (by simp [he])
        simp only [named] at hrest'
        simp only [named, List.map_cons, unlabelledEntries, shownEntries, hrest',
          ih e (by simp) around]
        rfl
    rw [Document.unlabelled, shownIn, shownIn, hopen]
    exact congrArg (fun s => "\x7b" ++ ", ".intercalate s ++ "\x7d") (hentries entries ih)

end IsJson

theorem named_injective : Function.Injective named := by
  refine List.map_injective_iff.mpr fun e e' h => ?_
  obtain ⟨hname, hvalue⟩ := Prod.mk.inj h
  exact Prod.ext (Document.str.inj hname) hvalue

theorem truthy_unlabelled (d : Document) : d.unlabelled.truthy = d.truthy := by
  match d with
  | .list _ [] | .list _ (_ :: _) | .mapping _ [] | .mapping _ (_ :: _) => rfl
  | .literal _ | .str _ | .date _ _ | .moment _ _ | .back _ _ => rfl

/-- **Two documents of JSON that differ in labels at most.** -/
structure Twin (d e : Document) : Prop where
  left : IsJson [] d
  right : IsJson [] e
  unlabelled_eq : e.unlabelled = d.unlabelled

/-- **Entries that differ in labels**: under each name are twins, or nothing. -/
def TwinEntries (entries entries' : List (Document × Document)) : Prop :=
  ∀ key, Option.Rel Twin (find? key entries) (find? key entries')

namespace Twin

variable {d e : Document}

theorem eq_literal {l : Literal} (h : Twin (.literal l) e) : e = .literal l := by
  obtain ⟨-, -, heq⟩ := h
  cases e <;> simp_all [unlabelled]

theorem eq_str {s : String} (h : Twin (.str s) e) : e = .str s := by
  obtain ⟨-, -, heq⟩ := h
  cases e <;> simp_all [unlabelled]

/-- The items are twins one by one. -/
theorem forall₂_items {items items' : List Document}
    (h : items'.map unlabelled = items.map unlabelled) (hleft : ∀ d ∈ items, IsJson [] d)
    (hright : ∀ d ∈ items', IsJson [] d) : List.Forall₂ Twin items items' := by
  induction items generalizing items' with
  | nil =>
    obtain rfl := List.map_eq_nil_iff.mp h
    exact .nil
  | cons d rest ih =>
    obtain ⟨d', rest', rfl, hhead, hrest⟩ := List.map_eq_cons_iff.mp h
    rw [List.forall_mem_cons] at hleft hright
    exact .cons ⟨hleft.1, hright.1, hhead⟩ (ih hrest hleft.2 hright.2)

/-- So are the entries, and what is under a name on one side is the twin of what is under it on the
other. -/
theorem lookup_entries {es es' : List (String × Document)}
    (h : es'.map (fun e => (e.1, e.2.unlabelled)) = es.map fun e => (e.1, e.2.unlabelled))
    (hleft : ∀ e ∈ es, IsJson [] e.2) (hright : ∀ e ∈ es', IsJson [] e.2) (key : String) :
    Option.Rel Twin (es.lookup key) (es'.lookup key) := by
  induction es generalizing es' with
  | nil =>
    obtain rfl := List.map_eq_nil_iff.mp h
    exact .none
  | cons e rest ih =>
    obtain ⟨e', rest', rfl, hhead, hrest⟩ := List.map_eq_cons_iff.mp h
    rw [List.forall_mem_cons] at hleft hright
    obtain ⟨hname, hvalue⟩ := Prod.mk.inj hhead
    rw [List.lookup_cons, List.lookup_cons, hname]
    split
    · exact .some ⟨hleft.1, hright.1, hvalue⟩
    · exact ih hrest hleft.2 hright.2

theorem exists_list {label : Option Nat} {items : List Document} (h : Twin (.list label items) e) :
    ∃ label' items', e = .list label' items' ∧ List.Forall₂ Twin items items' := by
  obtain ⟨hleft, hright, heq⟩ := h
  match e with
  | .list label' items' =>
    simp only [unlabelled, Document.list.injEq, true_and, unlabelledItems_eq_map] at heq
    exact ⟨label', items', rfl, forall₂_items heq hleft.items hright.items⟩

theorem exists_mapping {label : Option Nat} {entries : List (Document × Document)}
    (h : Twin (.mapping label entries) e) :
    ∃ label' entries', e = .mapping label' entries' ∧ TwinEntries entries entries' := by
  obtain ⟨hleft, hright, heq⟩ := h
  match e with
  | .mapping label' entries' =>
    obtain ⟨es, rfl, hes⟩ := hleft.entries
    obtain ⟨es', rfl, hes'⟩ := hright.entries
    refine ⟨label', named es', rfl, fun key => ?_⟩
    rw [named, named, Program.find?_texts, Program.find?_texts]
    simp only [unlabelled, Document.mapping.injEq, true_and, unlabelledEntries_named] at heq
    exact lookup_entries (named_injective heq) hes hes' key

/-- Documents that differ in labels are written alike. -/
theorem display_eq (h : Twin d e) : e.display = d.display := by
  have hshown : e.shown = d.shown := by
    rw [shown, shown, ← h.right.shownIn_unlabelled [], h.unlabelled_eq,
      h.left.shownIn_unlabelled []]
  match d with
  | .literal l => rw [h.eq_literal]
  | .str s => rw [h.eq_str]
  | .list label items =>
    obtain ⟨label', items', rfl, -⟩ := h.exists_list
    exact hshown
  | .mapping label entries =>
    obtain ⟨label', entries', rfl, -⟩ := h.exists_mapping
    exact hshown
  | .date _ _ | .moment _ _ | .back _ _ => nomatch h.left

/-- Both count as true, or neither does. -/
theorem truthy_eq (h : Twin d e) : e.truthy = d.truthy := by
  rw [← truthy_unlabelled, h.unlabelled_eq, truthy_unlabelled]

/-- **A document has the twin that is read from its text.** -/
theorem of_isJson (h : IsJson [] d) : Twin d d.unlabelled.numbered where
  left := h
  right := (h.unlabelled []).numberFrom (by simp)
  unlabelled_eq := (unlabelled_numberFrom _ 0).trans (unlabelled_unlabelled d)

end Twin

namespace TwinEntries

variable {entries entries' : List (Document × Document)} {key : String}
  (h : TwinEntries entries entries')
include h

theorem none (hkey : find? key entries = .none) : find? key entries' = .none := by
  have hrel := h key
  rw [hkey] at hrel
  generalize find? key entries' = r at hrel
  cases hrel
  rfl

theorem some {d : Document} (hkey : find? key entries = .some d) :
    ∃ e, find? key entries' = .some e ∧ Twin d e := by
  have hrel := h key
  rw [hkey] at hrel
  generalize find? key entries' = r at hrel
  cases hrel with
  | some htwin => exact ⟨_, rfl, htwin⟩

theorem str {s : String} (hkey : find? key entries = .some (.str s)) :
    find? key entries' = .some (.str s) := by
  obtain ⟨e, he, htwin⟩ := h.some hkey
  rw [he, htwin.eq_str]

theorem literal {l : Literal} (hkey : find? key entries = .some (.literal l)) :
    find? key entries' = .some (.literal l) := by
  obtain ⟨e, he, htwin⟩ := h.some hkey
  rw [he, htwin.eq_literal]

theorem list {label : Option Nat} {items : List Document}
    (hkey : find? key entries = .some (.list label items)) :
    ∃ label' items', find? key entries' = .some (.list label' items') ∧
      List.Forall₂ Twin items items' := by
  obtain ⟨e, he, htwin⟩ := h.some hkey
  obtain ⟨label', items', rfl, hitems⟩ := htwin.exists_list
  exact ⟨label', items', he, hitems⟩

/-- Names are the same names. -/
theorem names {label : Option Nat} {names : List String}
    (hkey : find? key entries = .some (.list label (names.map .str))) :
    ∃ label', find? key entries' = .some (.list label' (names.map .str)) := by
  obtain ⟨label', items', he, hitems⟩ := h.list hkey
  refine ⟨label', he.trans ?_⟩
  clear hkey he
  induction names generalizing items' with
  | nil =>
    cases hitems
    rfl
  | cons name rest ih =>
    obtain ⟨e, rest', htwin, hrest, rfl⟩ := List.forall₂_cons_left_iff.mp hitems
    have hitems' := ih rest' hrest
    simp only [Option.some.injEq, Document.list.injEq, true_and] at hitems' ⊢
    rw [htwin.eq_str, hitems', List.map_cons]

theorem getD {d e : Document} (htwin : Twin d e) :
    Twin ((find? key entries).getD d) ((find? key entries').getD e) := by
  have hrel := h key
  generalize find? key entries = r at hrel
  generalize find? key entries' = r' at hrel
  cases hrel with
  | none => exact htwin
  | some htwin' => exact htwin'

/-- What holds of whatever is under a name holds of its twin. -/
theorem forall_of_forall {P : Document → Prop} (hP : ∀ d e, Twin d e → P d → P e)
    (hkey : ∀ d, find? key entries = .some d → P d) : ∀ e, find? key entries' = .some e → P e := by
  intro e he
  cases hd : find? key entries with
  | none => cases (h.none hd).symm.trans he
  | some d =>
    obtain ⟨e', he', htwin⟩ := h.some hd
    cases he'.symm.trans he
    exact hP d _ htwin (hkey d hd)

end TwinEntries

end Document

namespace Program

open Document

/-! ### Reading -/

/-- Two places whose documents differ in labels. -/
structure PlaceTwin (p q : Place) : Prop where
  file : Twin p.file q.file
  line : Twin p.line q.line

theorem PlaceTwin.relabelled {p q : Place} (h : PlaceTwin p q) : p.Relabelled q where
  unlabelled_eq := by
    rw [Place.unlabelled, Place.unlabelled, h.file.unlabelled_eq, h.line.unlabelled_eq]
  text_eq := by rw [Place.text, Place.text, h.file.display_eq, h.line.display_eq]

/-- Two contexts whose documents differ in labels. -/
structure ContextTwin (c c' : Context) : Prop where
  root_eq : c'.root = c.root
  file : Twin c.file c'.file
  line : Twin c.line c'.line

namespace ContextTwin

theorem ofFile (name : String) : ContextTwin (.ofFile name) (.ofFile name) where
  root_eq := rfl
  file := ⟨.nil, .nil, rfl⟩
  line := ⟨.int (by decide +kernel), .int (by decide +kernel), rfl⟩

variable {c c' : Context} (h : ContextTwin c c')
include h

theorem within {p q : Place} (hplace : PlaceTwin p q) : ContextTwin (c.within p) (c'.within q) :=
  ⟨h.root_eq, hplace.file, hplace.line⟩

theorem here : PlaceTwin c.here c'.here where
  file := by
    change Twin c.inherited c'.inherited
    rw [Context.inherited, Context.inherited, h.file.truthy_eq, h.root_eq]
    split
    · exact h.file
    · exact ⟨.str _, .str _, rfl⟩
  line := h.line

theorem placeOf {entries entries' : List (Document × Document)}
    (hentries : TwinEntries entries entries') :
    PlaceTwin (c.placeOf entries) (c'.placeOf entries') where
  file := hentries.getD h.here.file
  line := hentries.getD h.line

end ContextTwin

/-- **A document is read like its twins**: what is read from both are nodes, and the same but for
labels. -/
def ReadsAlike (d : Document) : Prop := ∀ {c c' : Context} {e : Document}, ContextTwin c c' →
  Twin d e → ∃ n n', readNode c d = .ok n ∧ readNode c' e = .ok n' ∧ n.Relabelled n'

/-- A body is read like its twins, if its nodes are. -/
theorem readAll_twin {c c' : Context} (hc : ContextTwin c c') {items items' : List Document}
    (h : List.Forall₂ Twin items items') (hread : ∀ d ∈ items, ReadsAlike d) :
    ∃ body body', readAll c items = .ok body ∧ readAll c' items' = .ok body' ∧
      List.Forall₂ Node.Relabelled body body' := by
  induction h with
  | nil => exact ⟨[], [], by rw [readAll], by rw [readAll], .nil⟩
  | @cons d e rest rest' htwin _ ih =>
    obtain ⟨n, n', hn, hn', hrelabelled⟩ := hread d (by simp) hc htwin
    obtain ⟨body, body', hbody, hbody', hrest⟩ := ih fun d hd => hread d (by simp [hd])
    refine ⟨n :: body, n' :: body', ?_, ?_, .cons hrelabelled hrest⟩
    · rw [readAll, hn, hbody]
      rfl
    · rw [readAll, hn', hbody']
      rfl

/-- A mapping is read like its twins, if it is read like those mappings whose entries are twins. -/
theorem readsAlike_mapping {label : Option Nat} {entries : List (Document × Document)}
    (h : ∀ {c c' : Context} {label' : Option Nat} {entries' : List (Document × Document)},
      ContextTwin (c.within (c.placeOf entries)) (c'.within (c'.placeOf entries')) →
      TwinEntries entries entries' → (c.placeOf entries).Relabelled (c'.placeOf entries') →
      ∃ n n', readNode c (.mapping label entries) = .ok n ∧
        readNode c' (.mapping label' entries') = .ok n' ∧ n.Relabelled n') :
    ReadsAlike (.mapping label entries) := by
  intro c c' e hc htwin
  obtain ⟨label', entries', rfl, hentries⟩ := htwin.exists_mapping
  have hplace := hc.placeOf hentries
  exact h (hc.within hplace) hentries hplace.relabelled

section Parts

variable {c c' : Context} (hc : ContextTwin c c') {entries entries' : List (Document × Document)}
  (h : TwinEntries entries entries') {key : String}
include hc h

/-- What is read of the node under a name. -/
theorem readNode_under {d : Document} (hkey : find? key entries = some d) (hd : ReadsAlike d) :
    ∃ e n n', find? key entries' = some e ∧ readNode c d = .ok n ∧ readNode c' e = .ok n' ∧
      n.Relabelled n' := by
  obtain ⟨e, he, htwin⟩ := h.some hkey
  obtain ⟨n, n', hread⟩ := hd hc htwin
  exact ⟨e, n, n', he, hread⟩

/-- What is read of the body under a name. -/
theorem readAll_under {label : Option Nat} {items : List Document}
    (hkey : find? key entries = some (.list label items)) (hitems : ∀ d ∈ items, ReadsAlike d) :
    ∃ label' items' body body', find? key entries' = some (.list label' items') ∧
      readAll c items = .ok body ∧ readAll c' items' = .ok body' ∧
      List.Forall₂ Node.Relabelled body body' := by
  obtain ⟨label', items', he, htwins⟩ := h.list hkey
  obtain ⟨body, body', hread⟩ := readAll_twin hc htwins hitems
  exact ⟨label', items', body, body', he, hread⟩

end Parts

/-- A literal is read like its twins, whether it has a value or not. -/
theorem readsAlike_literalNode {label : Option Nat} {entries : List (Document × Document)}
    (htag : find? "node" entries = some (.str "literal"))
    (hvalue : ∀ d, find? "value" entries = some d → d.IsScalar) :
    ReadsAlike (.mapping label entries) := by
  refine readsAlike_mapping fun _ hentries hplace => ?_
  cases hfound : find? "value" entries with
  | none =>
    refine ⟨.literal _ .nil, .literal _ .nil, ?_, ?_, .literal .nil hplace⟩
    · rw [readNode]
      simp only [htag, hfound]
    · rw [readNode]
      simp only [hentries.str htag, hentries.none hfound]
  | some d =>
    have hscalar := hvalue d hfound
    cases d with
    | literal l =>
      exact ⟨_, _, readNode_literal rfl htag hfound,
        readNode_literal rfl (hentries.str htag) (hentries.literal hfound), .literal l hplace⟩
    | str s =>
      refine ⟨.string _ s, .string _ s, ?_, ?_, .string s hplace⟩
      · rw [readNode]
        simp only [htag, hfound]
      · rw [readNode]
        simp only [hentries.str htag, hentries.str hfound]
    | date | moment | list | mapping | back => exact hscalar.elim

/-- **Every node is read like its twins.** -/
theorem readNode_twin {d : Document} (h : d.IsNode) : ReadsAlike d := by
  induction h with
  | literal l =>
    intro c c' e hc htwin
    obtain rfl := htwin.eq_literal
    exact ⟨_, _, by rw [readNode], by rw [readNode], .literal l hc.here.relabelled⟩
  | str s =>
    intro c c' e hc htwin
    obtain rfl := htwin.eq_str
    exact ⟨_, _, by rw [readNode], by rw [readNode], .string s hc.here.relabelled⟩
  | literalNode htag hvalue => exact readsAlike_literalNode htag hvalue
  | stringNode htag hvalue =>
    exact readsAlike_mapping fun _ hentries hplace => ⟨_, _, readNode_string rfl htag hvalue,
      readNode_string rfl (hentries.str htag) (hentries.str hvalue), .string _ hplace⟩
  | var htag hname =>
    exact readsAlike_mapping fun _ hentries hplace => ⟨_, _, readNode_var rfl htag hname,
      readNode_var rfl (hentries.str htag) (hentries.str hname), .var _ hplace⟩
  | assign htag hname hvalue _ ih =>
    refine readsAlike_mapping fun hc hentries hplace => ?_
    obtain ⟨_, _, _, hvalue', hn, hn', hnodes⟩ := readNode_under hc hentries hvalue ih
    exact ⟨_, _, readNode_assign rfl htag hname hvalue hn,
      readNode_assign rfl (hentries.str htag) (hentries.str hname) hvalue' hn',
      .assign _ hplace hnodes⟩
  | @cond _ _ entries _ _ htag htest _ hthen _ helse ih ihs =>
    refine readsAlike_mapping fun hc hentries hplace => ?_
    obtain ⟨_, n, n', htest', hn, hn', hnodes⟩ := readNode_under hc hentries htest ih
    obtain ⟨_, _, body, body', hthen', hbody, hbody', hbodies⟩ :=
      readAll_under hc hentries hthen ihs
    have hcond := Node.Relabelled.cond hplace hnodes hbodies .none
    cases hfound : find? "else" entries with
    | none =>
      refine ⟨.cond _ n body none, .cond _ n' body' none, ?_, ?_, hcond⟩
      · exact readNode_cond rfl htag htest hthen hn hbody hfound
      · exact readNode_cond rfl (hentries.str htag) htest' hthen' hn' hbody' (hentries.none hfound)
    | some d =>
      obtain rfl := helse d hfound
      exact ⟨_, _, readNode_cond_of_nil htag htest hthen hn hbody hfound,
        readNode_cond_of_nil (hentries.str htag) htest' hthen' hn' hbody'
          (hentries.literal hfound), hcond⟩
  | condElse htag htest _ hthen _ helse _ ih ihs ihs' =>
    refine readsAlike_mapping fun hc hentries hplace => ?_
    obtain ⟨_, n, n', htest', hn, hn', hnodes⟩ := readNode_under hc hentries htest ih
    obtain ⟨_, _, body, body', hthen', hbody, hbody', hbodies⟩ :=
      readAll_under hc hentries hthen ihs
    obtain ⟨_, _, second, second', helse', hsecond, hsecond', hseconds⟩ :=
      readAll_under hc hentries helse ihs'
    refine ⟨.cond _ n body (some second), .cond _ n' body' (some second'), ?_, ?_,
      .cond hplace hnodes hbodies (.some hseconds)⟩
    · exact readNode_cond rfl htag htest hthen hn hbody ⟨_, _, helse, hsecond⟩
    · exact readNode_cond rfl (hentries.str htag) htest' hthen' hn' hbody' ⟨_, _, helse', hsecond'⟩
  | loop htag htest _ hbody _ ih ihs =>
    refine readsAlike_mapping fun hc hentries hplace => ?_
    obtain ⟨_, _, _, htest', hn, hn', hnodes⟩ := readNode_under hc hentries htest ih
    obtain ⟨_, _, _, _, hbody', hread, hread', hbodies⟩ := readAll_under hc hentries hbody ihs
    exact ⟨_, _, readNode_loop rfl htag htest hbody hn hread,
      readNode_loop rfl (hentries.str htag) htest' hbody' hn' hread', .loop hplace hnodes hbodies⟩
  | define htag hname hparams hbody _ ihs =>
    refine readsAlike_mapping fun hc hentries hplace => ?_
    obtain ⟨_, hparams'⟩ := hentries.names hparams
    obtain ⟨_, _, _, _, hbody', hread, hread', hbodies⟩ := readAll_under hc hentries hbody ihs
    exact ⟨_, _, readNode_define rfl htag hname hparams hbody hread,
      readNode_define rfl (hentries.str htag) (hentries.str hname) hparams' hbody' hread',
      .define _ _ hplace hbodies⟩
  | callBare htag hname hargs =>
    refine readsAlike_mapping fun _ hentries hplace => ?_
    have hargs' := hentries.forall_of_forall (fun d e htwin hd => htwin.truthy_eq.trans hd) hargs
    exact ⟨_, _, readNode_callBare htag hname hargs,
      readNode_callBare (hentries.str htag) (hentries.str hname) hargs', .call _ hplace .nil⟩
  | call htag hname hargs _ ihs =>
    refine readsAlike_mapping fun hc hentries hplace => ?_
    obtain ⟨_, _, _, _, hargs', hread, hread', hbodies⟩ := readAll_under hc hentries hargs ihs
    exact ⟨_, _, readNode_call rfl htag hname hargs hread,
      readNode_call rfl (hentries.str htag) (hentries.str hname) hargs' hread',
      .call _ hplace hbodies⟩

/-- **A program is read from a document as from its twin.** -/
theorem ofDocument_twin (file : String) {d e : Document} (h : d.IsProgram) (htwin : Twin d e) :
    ∃ p q, ofDocument file d = .ok p ∧ ofDocument file e = .ok q ∧
      List.Forall₂ Node.Relabelled p.body q.body := by
  cases h with
  | nil =>
    obtain rfl := htwin.eq_literal
    exact ⟨_, _, rfl, rfl, .nil⟩
  | list hitems =>
    obtain ⟨label', items', rfl, htwins⟩ := htwin.exists_list
    obtain ⟨body, body', hbody, hbody', hbodies⟩ :=
      readAll_twin (.ofFile file) htwins fun d hd => readNode_twin (hitems d hd)
    refine ⟨⟨file, body⟩, ⟨file, body'⟩, ?_, ?_, hbodies⟩
    · rw [ofDocument, hbody]
      rfl
    · rw [ofDocument, hbody']
      rfl

/-! ### Dumps -/

/-- **A dump is a program.** -/
theorem isProgram_dump (file : String) (p : Program) : (p.dump file).IsProgram := by
  have hends : Ends ((p.dump file).hasHugeInt = false) (fun _ => (p.dump file).IsProgram)
      (ofDocument file (p.dump file)) := ofDocument_ends file id
  rw [ofDocument_dump] at hends
  exact hends

/-- **A node that JSON has a form for**: its place has one, and so has its value if it is a
literal. -/
structure HasJson (n : Node) : Prop where
  file : IsJson [] n.place.file
  line : IsJson [] n.place.line
  value : ∀ place v, n = .literal place v → IsJson [] (.literal v)

/-- The entries of a dumped node have different names, if those of its kind have. -/
theorem nodup_dumped {file tag : String} {p : Place} {own : List (String × Document)}
    (h : ("node" :: "line" :: "file" :: own.map Prod.fst).Nodup) :
    ((heading file tag p ++ own).map Prod.fst).Nodup := by
  have hplain : ("node" :: "line" :: own.map Prod.fst).Nodup :=
    h.sublist (.cons_cons _ (.cons_cons _ (.cons _ (.refl _))))
  unfold heading
  split
  · split
    · exact hplain
    · exact h
  · exact h

/-- A dumped node is a document of JSON, if its place and what is special about its kind are. -/
theorem isJson_dumped {file tag : String} {p : Place} {own : List (String × Document)}
    (hfile : IsJson [] p.file) (hline : IsJson [] p.line)
    (hnames : ("node" :: "line" :: "file" :: own.map Prod.fst).Nodup)
    (hown : ∀ e ∈ own, IsJson [] e.2) : IsJson [] (mappingOf (heading file tag p ++ own)) := by
  have hheading : heading file tag p ⊆
      [("node", .str tag), ("line", p.line), ("file", p.file)] := by
    unfold heading
    split
    · split <;> simp
    · simp
  have hall : ∀ e ∈ heading file tag p, IsJson [] e.2 := by
    intro e he
    have hmem := hheading he
    simp only [List.mem_cons, List.not_mem_nil, or_false] at hmem
    rcases hmem with rfl | rfl | rfl
    · exact .str tag
    · exact hline
    · exact hfile
  exact .mapping rfl (nodup_dumped hnames) (List.forall_mem_append.mpr ⟨hall, hown⟩)

/-- **The dump of a node is a document of JSON**, if JSON has a form for all that is in it. -/
theorem isJson_dumpNode (file : String) {tree : List Node} (h : ∀ n, n.Occurs tree → HasJson n)
    (n : Node) (hn : n.Occurs tree) : IsJson [] (dumpNode file n) := by
  induction n using Node.induction with
  | h n ih =>
    obtain ⟨hfile, hline, hvalue⟩ := h n hn
    have hchild {m : Node} (hm : m ∈ n.children) : IsJson [] (dumpNode file m) :=
      ih m hm (.child hn hm)
    have hbody {ns : List Node} (hns : ∀ m ∈ ns, m ∈ n.children) :
        IsJson [] (.list none (dumpAll file ns)) := by
      rw [dumpAll_eq_map]
      refine .list rfl fun d hd => ?_
      obtain ⟨m, hm, rfl⟩ := List.mem_map.mp hd
      exact hchild (hns m hm)
    have hname (name : String) : IsJson [] (.str name) := .str name
    cases n with
    | literal p v => exact isJson_dumped hfile hline (by simp) (by simp [hvalue p v rfl])
    | string p s => exact isJson_dumped hfile hline (by simp) (by simp [hname])
    | var p name => exact isJson_dumped hfile hline (by simp) (by simp [hname])
    | assign p name value =>
      have hassigned := @hchild value (by simp [Node.children, Node.parts])
      exact isJson_dumped hfile hline (by simp) (by simp [hname, hassigned])
    | cond p test thenBody elseBody =>
      have htest := @hchild test (by simp [Node.children, Node.parts])
      have hthen := @hbody thenBody (by simp +contextual [Node.children, Node.parts])
      cases elseBody with
      | none =>
        rw [dumpNode, List.append_assoc]
        exact isJson_dumped hfile hline (by simp) (by simp [htest, hthen])
      | some body =>
        have helse := @hbody body (by simp +contextual [Node.children, Node.parts])
        rw [dumpNode, List.append_assoc]
        exact isJson_dumped hfile hline (by simp) (by simp [htest, hthen, helse])
    | loop p test body =>
      have htest := @hchild test (by simp [Node.children, Node.parts])
      have hlooped := @hbody body (by simp +contextual [Node.children, Node.parts])
      exact isJson_dumped hfile hline (by simp) (by simp [htest, hlooped])
    | define p name params body =>
      have hdefined := @hbody body fun _ hm => hm
      have hparams : IsJson [] (.list none (params.map .str)) := by
        refine .list rfl fun d hd => ?_
        obtain ⟨param, -, rfl⟩ := List.mem_map.mp hd
        exact .str param
      exact isJson_dumped hfile hline (by simp) (by simp [hname, hparams, hdefined])
    | call p name args =>
      have hargs := @hbody args fun _ hm => hm
      exact isJson_dumped hfile hline (by simp) (by simp [hname, hargs])

/-- **The dump of a program is a document of JSON**, if JSON has a form for all of its nodes. -/
theorem isJson_dump (file : String) (p : Program) (h : ∀ n, n.Occurs p.body → HasJson n) :
    (p.dump file).IsJson [] := by
  rw [dump, dumpAll_eq_map]
  refine .list rfl fun d hd => ?_
  obtain ⟨n, hn, rfl⟩ := List.mem_map.mp hd
  exact isJson_dumpNode file h n (.top hn)

end Program

/-! ### Texts of programs -/

namespace Runner

variable {V W : Type} (r : Runner V W) (tracing : Tracing) (fuel : Nat) (w : W)

/-- **A text is run like a document**, if what is read from it is the document but for labels. -/
theorem run_twin {d e : Document} (h : d.IsProgram) (htwin : d.Twin e) {format : Option String}
    {source : Source} (hread : Document.read format (some r.file) source = .ok e) :
    (r.run tracing fuel (.source format source) w).unlabelled =
      (r.run tracing fuel (.statements d) w).unlabelled := by
  obtain ⟨p, q, hp, hq, hbodies⟩ := Program.ofDocument_twin r.file h htwin
  have hstatements : (Job.statements d).load r.file = .ok (.ok p) := by
    rw [Job.load, hp]
    rfl
  have hsource : (Job.source format source).load r.file = .ok (.ok q) := by
    rw [Job.load, Program.load, hread]
    exact congrArg (Except.map Except.ok) hq
  rw [r.run_of_load tracing fuel p w hstatements, r.run_of_load tracing fuel q w hsource]
  exact r.run_relabelled tracing fuel w hbodies

end Runner

/-- **The law of JSON texts.** A document of JSON can be written in either layout. Its text is read
as the same document but for the labels, which a text does not have: always if the text is said to
be JSON; and for a list or a mapping also without a format, unless the name of the file says YAML.
If the document is the dump of a program, then a run of the text is a run of the document. -/
theorem Document.IsJson.roundTrip {d : Document} (h : d.IsJson []) (pretty : Bool) :
    ∃ s e, write (some "json") pretty d = .ok s ∧ e.unlabelled = d.unlabelled ∧
      (∀ file, read (some "json") file (.text s) = .ok e) ∧
      (d.IsContainer → ∀ file,
        Format.endsIn [".yaml", ".yml"] (Text.toLower (file.getD "").toList) = false →
          read none file (.text s) = .ok e) ∧
      ∀ {V W : Type} (r : Runner V W) (p : Program) (file : String), d = p.dump file →
        ∀ (tracing : Tracing) (fuel : Nat) (w : W),
          let run := r.run tracing fuel (.statements d) w
          (r.run tracing fuel (.source (some "json") (.text s)) w).unlabelled = run.unlabelled ∧
            (Format.endsIn [".yaml", ".yml"] (Text.toLower r.file.toList) = false →
              (r.run tracing fuel (.source none (.text s)) w).unlabelled = run.unlabelled) := by
  obtain ⟨s, hwrite, hread, hdetected⟩ := h.exists_write pretty
  have htwin := Twin.of_isJson h
  refine ⟨s, _, hwrite, htwin.unlabelled_eq, hread, hdetected, ?_⟩
  intro V W r p file hd tracing fuel w run
  have hprogram : d.IsProgram := hd ▸ p.isProgram_dump file
  have hcontainer : d.IsContainer := hd ▸ trivial
  exact ⟨r.run_twin tracing fuel w hprogram htwin (hread _), fun hfile =>
    r.run_twin tracing fuel w hprogram htwin (hdetected hcontainer (some r.file) hfile)⟩

namespace Program

open Document

/-- A program that prints a text with quotation marks, the end of a line and a control character,
and that defines a function with nothing in it. -/
def outcry : Program :=
  ⟨"main", [
    .call ⟨.str "main", .int 1⟩ "print" [.string ⟨.str "main", .int 1⟩ "say \"hi\"\n\x01",
      .literal ⟨.str "main", .int 2⟩ (.int (-12))],
    .define ⟨.str "lib", .int 3⟩ "idle" [] []]⟩

theorem isJson_outcry : (outcry.dump "main").IsJson [] := by
  refine isJson_dump "main" outcry fun n hn => ?_
  have hmem : n ∈ outcry.body ++ outcry.body.flatMap Node.children := by
    induction hn with
    | top h => exact List.mem_append_left _ h
    | child _ hm ih =>
      simp only [outcry, Node.children, Node.parts, List.flatMap_cons, List.flatMap_nil,
        List.cons_append, List.nil_append, List.mem_cons, List.not_mem_nil, or_false] at ih
      rcases ih with rfl | rfl | rfl | rfl <;> simp_all [outcry, Node.children, Node.parts]
  simp only [outcry, Node.children, Node.parts, List.flatMap_cons, List.flatMap_nil,
    List.cons_append, List.nil_append, List.mem_cons, List.not_mem_nil, or_false] at hmem
  have hplace (file : String) {line : Int} (hline : Decimal.isTooLong line = false) (n : Node)
      (hn : n.place = ⟨.str file, .int line⟩)
      (hvalue : ∀ place v, n = .literal place v → IsJson [] (.literal v)) : HasJson n :=
    ⟨hn ▸ .str file, hn ▸ .int hline, hvalue⟩
  rcases hmem with rfl | rfl | rfl | rfl
  · exact hplace "main" (by decide +kernel) _ rfl (by rintro _ _ ⟨⟩)
  · exact hplace "lib" (by decide +kernel) _ rfl (by rintro _ _ ⟨⟩)
  · exact hplace "main" (by decide +kernel) _ rfl (by rintro _ _ ⟨⟩)
  · refine hplace "main" (by decide +kernel) _ rfl fun _ _ h => ?_
    cases h
    exact .int (by decide +kernel)

/-- **The text of the program runs like its dump**, and is read again, without a format. -/
theorem roundTrip_of_outcry :
    (outcry.dump "main").IsJson [] ∧ ∃ s e, Document.write (some "json") true (outcry.dump "main") =
      .ok s ∧ e.unlabelled = (outcry.dump "main").unlabelled ∧
      Document.read none (some "main") (.text s) = .ok e ∧
      let r := Runner.mk Bridges.reflective "main" 64
      let w := World.start .standard ""
      (r.run .off 9 (.source none (.text s)) w).unlabelled =
        (r.run .off 9 (.statements (outcry.dump "main")) w).unlabelled := by
  obtain ⟨s, e, hwrite, hsame, -, hread, hrun⟩ := isJson_outcry.roundTrip true
  have hfile : Format.endsIn [".yaml", ".yml"] (Text.toLower "main".toList) = false := by
    decide +kernel
  exact ⟨isJson_outcry, s, e, hwrite, hsame, hread trivial (some "main") hfile,
    (hrun (Runner.mk Bridges.reflective "main" 64) outcry "main" rfl .off 9 _).2 hfile⟩

end Program

end Treewalk
