import Treewalk.Program.Dump
import Treewalk.Program.Reader
import Treewalk.Proofs.Location

/-!
# Dumps that are read again

A dump says the line of every node, and its file where that is not the file the program is dumped
for. The reader fills in what is not said, but not from the same source: a node that names no file
takes that of the node around it. So the two disagree where a node of the program's own file stands
directly inside a node of another file (`Treewalk.Node.Strayed`), and nowhere else.

What a dumped tree becomes when it is read again is written down as a change of its places alone
(`Treewalk.Node.mapPlace`), in which a node that is at home takes its file from what became of the
node around it (`Treewalk.Program.inheritFile`). That a dump is accepted, and what is kept, can be
read off this.

* **`Treewalk.Program.ofDocument_dump`**: what is read from the dump of a program, whatever the
  program.
* **`Treewalk.Program.read_dump`**: a program that was read is read again from its dump with
  everything but its files, and with these too unless a node has strayed.
-/

namespace Treewalk

/-! ### Trees with other places -/

namespace Node

mutual

/-- **A node with other places.** What becomes of a place may depend on what has become of the place
around it. -/
def mapPlace (step : Place → Place → Place) (around : Place) : Node → Node
  | .literal p v => .literal (step around p) v
  | .string p s => .string (step around p) s
  | .var p name => .var (step around p) name
  | .assign p name value => .assign (step around p) name (mapPlace step (step around p) value)
  | .cond p test thenBody elseBody =>
    .cond (step around p) (mapPlace step (step around p) test)
      (mapPlaceAll step (step around p) thenBody)
      (match elseBody with
      | none => none
      | some body => some (mapPlaceAll step (step around p) body))
  | .loop p test body =>
    .loop (step around p) (mapPlace step (step around p) test)
      (mapPlaceAll step (step around p) body)
  | .define p name params body =>
    .define (step around p) name params (mapPlaceAll step (step around p) body)
  | .call p name args => .call (step around p) name (mapPlaceAll step (step around p) args)

/-- The nodes of a body with other places. -/
def mapPlaceAll (step : Place → Place → Place) (around : Place) : List Node → List Node
  | [] => []
  | n :: rest => mapPlace step around n :: mapPlaceAll step around rest

end

variable {step step' : Place → Place → Place} {around around' : Place}

theorem mapPlaceAll_eq_map (ns : List Node) :
    mapPlaceAll step around ns = ns.map (mapPlace step around) := by
  induction ns with
  | nil => rfl
  | cons n rest ih => rw [mapPlaceAll, ih, List.map_cons]

/-- A change that does not show in a second one can be left out. -/
theorem mapPlace_mapPlace (hstep : ∀ x y p, step' x (step y p) = step' x p) (n : Node) :
    ∀ around around' : Place,
      (n.mapPlace step around).mapPlace step' around' = n.mapPlace step' around' := by
  induction n using Node.induction with
  | h n ih =>
    intro around around'
    have hbody {ns : List Node} (h : ∀ m ∈ ns, m ∈ n.children) (x y : Place) :
        mapPlaceAll step' y (mapPlaceAll step x ns) = mapPlaceAll step' y ns := by
      simp only [mapPlaceAll_eq_map, List.map_map]
      exact List.map_congr_left fun m hm => ih m (h m hm) x y
    cases n with
    | literal | string | var => simp only [mapPlace, hstep]
    | assign place name value =>
      rw [mapPlace, mapPlace, mapPlace, hstep, ih value (by simp [children, parts])]
    | cond place test thenBody elseBody =>
      have htest := ih test (by simp [children, parts])
      have hthen := @hbody thenBody (by simp +contextual [children, parts])
      cases elseBody with
      | none => simp only [mapPlace, hstep, htest, hthen]
      | some body =>
        have helse := @hbody body (by simp +contextual [children, parts])
        simp only [mapPlace, hstep, htest, hthen, helse]
    | loop place test body =>
      rw [mapPlace, mapPlace, mapPlace, hstep, ih test (by simp [children, parts]),
        @hbody body (by simp +contextual [children, parts])]
    | define place name params body =>
      rw [mapPlace, mapPlace, mapPlace, hstep, @hbody body fun _ hm => hm]
    | call place name args =>
      rw [mapPlace, mapPlace, mapPlace, hstep, @hbody args fun _ hm => hm]

theorem map_mapPlace_eq_self_iff {ns : List Node} :
    ns.map (mapPlace step around) = ns ↔ ∀ n ∈ ns, n.mapPlace step around = n := by
  simpa using List.map_inj_left (l := ns) (f := mapPlace step around) (g := id)

/-- **A node keeps its places** when its own place stays, and those below keep theirs. -/
theorem mapPlace_eq_self_iff {n : Node} : n.mapPlace step around = n ↔
    step around n.place = n.place ∧ ∀ m ∈ n.children, m.mapPlace step n.place = m := by
  have hbody (x : Place) (ns : List Node) :
      mapPlaceAll step x ns = ns ↔ ∀ m ∈ ns, m.mapPlace step x = m := by
    rw [mapPlaceAll_eq_map]
    exact map_mapPlace_eq_self_iff
  cases n with
  | literal | string | var => simp [mapPlace, place, children, parts]
  | assign p name value =>
    simp only [mapPlace, Node.assign.injEq, true_and, place, children, parts, List.mem_singleton,
      forall_eq]
    -- what is inside is seen from the new place, which here is the old one
    exact and_congr_right fun h => by rw [h]
  | cond p test thenBody elseBody =>
    cases elseBody with
    | none =>
      simp only [mapPlace, Node.cond.injEq, and_true, place, children, parts, Option.getD_none,
        List.append_nil, List.forall_mem_cons, hbody]
      exact and_congr_right fun h => by rw [h]
    | some body =>
      simp only [mapPlace, Node.cond.injEq, Option.some.injEq, place, children, parts,
        Option.getD_some, List.forall_mem_cons, List.forall_mem_append, hbody]
      exact and_congr_right fun h => by rw [h]
  | loop p test body =>
    simp only [mapPlace, Node.loop.injEq, place, children, parts, List.forall_mem_cons, hbody]
    exact and_congr_right fun h => by rw [h]
  | define p name params body =>
    simp only [mapPlace, Node.define.injEq, true_and, place, children, hbody]
    exact and_congr_right fun h => by rw [h]
  | call p name args =>
    simp only [mapPlace, Node.call.injEq, true_and, place, children, parts, hbody]
    exact and_congr_right fun h => by rw [h]

end Node

/-- Whether a document is a given text. -/
def Document.isText (s : String) : Document → Bool
  | .str t => t = s
  | _ => false

theorem Document.isText_iff {s : String} {d : Document} : d.isText s = true ↔ d = .str s := by
  cases d <;> simp [isText]

namespace Program

/-! ### What the reader makes of a mapping

One lemma for each kind of node: what the entries have to be, and which node is read. -/

section Kinds

variable {c : Context} {label inner inner' : Option Nat} {entries : List (Document × Document)}
  {place : Place} {name : String} {d : Document} {items items' : List Document} {n : Node}
  {body : List Node} (hplace : c.placeOf entries = place)
include hplace

theorem readNode_literal {v : Literal}
    (htag : Document.find? "node" entries = some (.str "literal"))
    (hvalue : Document.find? "value" entries = some (.literal v)) :
    readNode c (.mapping label entries) = .ok (.literal place v) := by
  rw [readNode]
  simp only [htag, hvalue, hplace]

theorem readNode_string {s : String} (htag : Document.find? "node" entries = some (.str "string"))
    (hvalue : Document.find? "value" entries = some (.str s)) :
    readNode c (.mapping label entries) = .ok (.string place s) := by
  rw [readNode]
  simp only [htag, textAt, hvalue, hplace]
  rfl

theorem readNode_var (htag : Document.find? "node" entries = some (.str "var"))
    (hname : Document.find? "name" entries = some (.str name)) :
    readNode c (.mapping label entries) = .ok (.var place name) := by
  rw [readNode]
  simp only [htag, textAt, hname, hplace]
  rfl

theorem readNode_assign (htag : Document.find? "node" entries = some (.str "assign"))
    (hname : Document.find? "name" entries = some (.str name))
    (hvalue : Document.find? "value" entries = some d)
    (hd : readNode (c.within place) d = .ok n) :
    readNode c (.mapping label entries) = .ok (.assign place name n) := by
  rw [readNode]
  simp only [htag, textAt, hname, hplace]
  split
  · next h => cases hvalue.symm.trans h
  · next h =>
    cases hvalue.symm.trans h
    rw [hd]
    rfl

theorem readNode_cond {elseBody : Option (List Node)}
    (htag : Document.find? "node" entries = some (.str "if"))
    (htest : Document.find? "cond" entries = some d)
    (hthen : Document.find? "then" entries = some (.list inner items))
    (hd : readNode (c.within place) d = .ok n)
    (hitems : readAll (c.within place) items = .ok body)
    (helse : match elseBody with
      | none => Document.find? "else" entries = none
      | some body' => ∃ inner' items', Document.find? "else" entries = some (.list inner' items') ∧
          readAll (c.within place) items' = .ok body') :
    readNode c (.mapping label entries) = .ok (.cond place n body elseBody) := by
  rw [readNode]
  simp only [htag, hplace]
  split
  · next h => cases htest.symm.trans h
  · next h =>
    cases htest.symm.trans h
    rw [hd]
    split
    · next h => cases hthen.symm.trans h
    · next h =>
      cases hthen.symm.trans h
      rw [hitems]
      simp only [bind, Except.bind]
      cases elseBody with
      | none =>
        split
        · rfl
        · rfl
        · next h => cases helse.symm.trans h
        · next h => cases helse.symm.trans h
      | some body' =>
        obtain ⟨inner', items', helse, hitems'⟩ := helse
        split
        · next h => cases helse.symm.trans h
        · next h => cases helse.symm.trans h
        · next h =>
          cases helse.symm.trans h
          rw [hitems']
          rfl
        · next hother h =>
          cases helse.symm.trans h
          exact (hother _ _ rfl).elim
    · next hother h =>
      cases hthen.symm.trans h
      exact (hother _ _ rfl).elim

theorem readNode_loop (htag : Document.find? "node" entries = some (.str "while"))
    (htest : Document.find? "cond" entries = some d)
    (hbody : Document.find? "body" entries = some (.list inner items))
    (hd : readNode (c.within place) d = .ok n)
    (hitems : readAll (c.within place) items = .ok body) :
    readNode c (.mapping label entries) = .ok (.loop place n body) := by
  rw [readNode]
  simp only [htag, hplace]
  split
  · next h => cases htest.symm.trans h
  · next h =>
    cases htest.symm.trans h
    rw [hd]
    simp only [bind, Except.bind]
    split
    · next h => cases hbody.symm.trans h
    · next h =>
      cases hbody.symm.trans h
      rw [hitems]
      rfl
    · next hother h =>
      cases hbody.symm.trans h
      exact (hother _ _ rfl).elim

omit hplace in
/-- A list of texts is a list of names. -/
theorem namesOf_map (blame : FormatFault → Fault) (tag key : String) (names : List String) :
    namesOf blame tag key (names.map .str) = .ok names := by
  induction names with
  | nil => rfl
  | cons n rest ih => rw [List.map_cons, namesOf, ih, Except.map]

theorem readNode_define {params : List String}
    (htag : Document.find? "node" entries = some (.str "def"))
    (hname : Document.find? "name" entries = some (.str name))
    (hparams : Document.find? "params" entries = some (.list inner' (params.map .str)))
    (hbody : Document.find? "body" entries = some (.list inner items))
    (hitems : readAll (c.within place) items = .ok body) :
    readNode c (.mapping label entries) = .ok (.define place name params body) := by
  rw [readNode]
  simp only [htag, hplace, textAt, hname, namesAt, hparams, namesOf_map, bind, Except.bind]
  split
  · next h => cases hbody.symm.trans h
  · next h =>
    cases hbody.symm.trans h
    rw [hitems]
    rfl
  · next hother h =>
    cases hbody.symm.trans h
    exact (hother _ _ rfl).elim

theorem readNode_call (htag : Document.find? "node" entries = some (.str "call"))
    (hname : Document.find? "name" entries = some (.str name))
    (hargs : Document.find? "args" entries = some (.list inner items))
    (hitems : readAll (c.within place) items = .ok body) :
    readNode c (.mapping label entries) = .ok (.call place name body) := by
  rw [readNode]
  simp only [htag, hplace, textAt, hname, bind, Except.bind]
  split
  · next h => cases hargs.symm.trans h
  · next h =>
    cases hargs.symm.trans h
    rw [hitems]
    rfl
  · next hother h =>
    cases hargs.symm.trans h
    exact (hother _ _ rfl).elim

end Kinds

/-- A body is read node by node. -/
theorem readAll_map {c : Context} {doc : Node → Document} {f : Node → Node} {ns : List Node}
    (h : ∀ n ∈ ns, readNode c (doc n) = .ok (f n)) : readAll c (ns.map doc) = .ok (ns.map f) := by
  induction ns with
  | nil => rw [List.map_nil, readAll, List.map_nil]
  | cons n rest ih =>
    rw [List.map_cons, readAll, h n (by simp), ih fun m hm => h m (by simp [hm])]
    rfl

/-! ### What a dump says -/

theorem dumpAll_eq_map (file : String) (ns : List Node) :
    dumpAll file ns = ns.map (dumpNode file) := by
  induction ns with
  | nil => rfl
  | cons n rest ih => rw [dumpAll, ih, List.map_cons]

/-- The entries of a dumped node: its heading, and what is special about its kind. -/
def dumped (file tag : String) (p : Place) (own : List (String × Document)) :
    List (Document × Document) :=
  (heading file tag p ++ own).map fun e => (.str e.1, e.2)

section Dumped

variable {file tag key : String} {p : Place} {own : List (String × Document)}

theorem find?_texts (key : String) (entries : List (String × Document)) :
    Document.find? key (entries.map fun e => (.str e.1, e.2)) = entries.lookup key := by
  induction entries with
  | nil => rfl
  | cons e rest ih =>
    obtain ⟨k, v⟩ := e
    rw [List.map_cons, Document.find?, List.lookup_cons, ih]
    by_cases hk : key = k
    · simp [Document.sameKey, hk]
    · simp [Document.sameKey, beq_false_of_ne hk, Ne.symm hk]

theorem find?_dumped_line : Document.find? "line" (dumped file tag p own) = some p.line := rfl

/-- The file is written down unless it is the expected one. -/
theorem find?_dumped_file (h : own.lookup "file" = none) :
    Document.find? "file" (dumped file tag p own) =
      if p.file.isText file then none else some p.file := by
  rw [dumped, find?_texts]
  unfold heading
  split
  · next s hs =>
    by_cases hfile : s = file <;> simp [List.lookup_cons, hs, hfile, Document.isText, h]
  · next hs =>
    have hother : ¬ p.file.isText file = true := fun htext => hs _ (Document.isText_iff.mp htext)
    simp [List.lookup_cons, hother]

/-- Keys that are not in the heading are those of the kind. -/
theorem find?_dumped (h : key ∉ ["node", "line", "file"]) :
    Document.find? key (dumped file tag p own) = own.lookup key := by
  simp only [List.mem_cons, not_or, List.not_mem_nil, ← beq_eq_false_iff_ne] at h
  rw [dumped, find?_texts]
  unfold heading
  split
  · split <;> simp [List.lookup_cons, h]
  · simp [List.lookup_cons, h]

end Dumped

/-! ### Reading a dump -/

/-- **Where a dumped node is read again**: a file that is the program's own was left out of the
dump, and is taken from what is around. -/
def inheritFile (root : String) (around p : Place) : Place :=
  if p.file.isText root then ⟨if around.file.truthy then around.file else .str root, p.line⟩ else p

theorem placeOf_dumped {c : Context} {tag : String} {p : Place} {own : List (String × Document)}
    (h : own.lookup "file" = none) :
    c.placeOf (dumped c.root tag p own) = inheritFile c.root ⟨c.file, c.line⟩ p := by
  rw [Context.placeOf, find?_dumped_line, find?_dumped_file h, inheritFile]
  cases p.file.isText c.root <;> rfl

/-- **A dumped node is read again**, in other places. -/
theorem readNode_dumpNode (root : String) (n : Node) : ∀ around : Place,
    readNode ⟨root, around.file, around.line⟩ (dumpNode root n) =
      .ok (n.mapPlace (inheritFile root) around) := by
  induction n using Node.induction with
  | h n ih =>
    intro around
    have hplace {tag : String} {p : Place} {own : List (String × Document)}
        (h : own.lookup "file" = none) :
        Context.placeOf ⟨root, around.file, around.line⟩ (dumped root tag p own) =
          inheritFile root around p := placeOf_dumped h
    have hbody {ns : List Node} (h : ∀ m ∈ ns, m ∈ n.children) (x : Place) :
        readAll ⟨root, x.file, x.line⟩ (dumpAll root ns) =
          .ok (Node.mapPlaceAll (inheritFile root) x ns) := by
      rw [dumpAll_eq_map, Node.mapPlaceAll_eq_map]
      exact readAll_map fun m hm => ih m (h m hm) x
    cases n with
    | literal p v => exact readNode_literal (hplace rfl) rfl (find?_dumped (by decide))
    | string p s => exact readNode_string (hplace rfl) rfl (find?_dumped (by decide))
    | var p name => exact readNode_var (hplace rfl) rfl (find?_dumped (by decide))
    | assign p name value =>
      exact readNode_assign (hplace rfl) rfl (find?_dumped (by decide)) (find?_dumped (by decide))
        (ih value (by simp [Node.children, Node.parts]) _)
    | cond p test thenBody elseBody =>
      have htest := ih test (by simp [Node.children, Node.parts])
      have hthen := @hbody thenBody (by simp +contextual [Node.children, Node.parts])
      have hown := List.append_assoc (heading root "if" p)
        [("cond", dumpNode root test), ("then", .list none (dumpAll root thenBody))]
      cases elseBody with
      | none =>
        rw [dumpNode, mappingOf, hown, Node.mapPlace]
        exact readNode_cond (hplace rfl) rfl (find?_dumped (by decide)) (find?_dumped (by decide))
          (htest _) (hthen _) (find?_dumped (by decide))
      | some body =>
        have helse := @hbody body (by simp +contextual [Node.children, Node.parts])
        rw [dumpNode, mappingOf, hown, Node.mapPlace]
        exact readNode_cond (hplace rfl) rfl (find?_dumped (by decide)) (find?_dumped (by decide))
          (htest _) (hthen _) ⟨_, _, find?_dumped (by decide), helse _⟩
    | loop p test body =>
      exact readNode_loop (hplace rfl) rfl (find?_dumped (by decide)) (find?_dumped (by decide))
        (ih test (by simp [Node.children, Node.parts]) _)
        (hbody (by simp +contextual [Node.children, Node.parts]) _)
    | define p name params body =>
      exact readNode_define (hplace rfl) rfl (find?_dumped (by decide)) (find?_dumped (by decide))
        (find?_dumped (by decide)) (hbody (fun _ hm => hm) _)
    | call p name args =>
      exact readNode_call (hplace rfl) rfl (find?_dumped (by decide)) (find?_dumped (by decide))
        (hbody (fun _ hm => hm) _)

/-- **What is read from a dump**: the same program with files that are inherited. -/
theorem ofDocument_dump (file : String) (p : Program) :
    ofDocument file (p.dump file) =
      .ok ⟨file, p.body.map (Node.mapPlace (inheritFile file) ⟨.nil, .int 0⟩)⟩ := by
  have hbody : readAll (.ofFile file) (p.body.map (dumpNode file)) =
      .ok (p.body.map (Node.mapPlace (inheritFile file) ⟨.nil, .int 0⟩)) :=
    readAll_map fun n _ => readNode_dumpNode file n ⟨.nil, .int 0⟩
  rw [dump, ofDocument, dumpAll_eq_map, hbody]
  rfl

/-- A program without its files. -/
def unfiled (p : Program) : List Node :=
  p.body.map (Node.mapPlace (fun _ place => ⟨.nil, place.line⟩) .nowhere)

theorem inheritFile_line (root : String) (around p : Place) :
    (inheritFile root around p).line = p.line := by
  unfold inheritFile
  split <;> rfl

/-- A place is kept unless its file was left out and another one is around. -/
theorem inheritFile_eq_self_iff {root : String} {around p : Place} :
    inheritFile root around p = p ↔
      ¬ (p.file = .str root ∧ around.file.truthy = true ∧ around.file ≠ .str root) := by
  obtain ⟨file, line⟩ := p
  by_cases hfile : file.isText root = true
  · have hroot := Document.isText_iff.mp hfile
    rw [inheritFile, if_pos hfile]
    by_cases htruthy : around.file.truthy = true <;> simp [htruthy, hroot]
  · have hother : file ≠ .str root := fun h => hfile (Document.isText_iff.mpr h)
    rw [inheritFile, if_neg hfile]
    simp [hother]

end Program

/-- **A node that has strayed**: it is at home in a file, and stands directly inside a node of
another file. A file that counts as false is no other file. -/
structure Node.Strayed (file : String) (m n : Node) : Prop where
  mem_children : n ∈ m.children
  file_eq : n.place.file = .str file
  truthy_around : m.place.file.truthy = true
  around_ne : m.place.file ≠ .str file

namespace Program

/-- **A tree keeps its files** exactly when none of its nodes has strayed. -/
theorem map_inheritFile_eq_self_iff {file : String} {tree : List Node} :
    tree.map (Node.mapPlace (inheritFile file) ⟨.nil, .int 0⟩) = tree ↔
      ∀ m n : Node, m.Occurs tree → ¬ Node.Strayed file m n := by
  rw [Node.map_mapPlace_eq_self_iff]
  constructor
  · intro hkept m n hm hstrayed
    have hnode (m : Node) (hm : m.Occurs tree) :
        ∃ around, m.mapPlace (inheritFile file) around = m := by
      induction hm with
      | top hn => exact ⟨_, hkept _ hn⟩
      | child _ hn ih =>
        obtain ⟨around, h⟩ := ih
        exact ⟨_, (Node.mapPlace_eq_self_iff.mp h).2 _ hn⟩
    obtain ⟨around, h⟩ := hnode m hm
    have hn := (Node.mapPlace_eq_self_iff.mp h).2 n hstrayed.mem_children
    have hplace : inheritFile file m.place n.place = n.place := (Node.mapPlace_eq_self_iff.mp hn).1
    exact inheritFile_eq_self_iff.mp hplace
      ⟨hstrayed.file_eq, hstrayed.truthy_around, hstrayed.around_ne⟩
  · intro hnone n hn
    have hnode : ∀ n : Node, n.Occurs tree → ∀ around, inheritFile file around n.place = n.place →
        n.mapPlace (inheritFile file) around = n := by
      intro n
      induction n using Node.induction with
      | h n ih =>
        intro hocc around hplace
        refine Node.mapPlace_eq_self_iff.mpr ⟨hplace, fun m hm => ?_⟩
        refine ih m hm (.child hocc hm) n.place (inheritFile_eq_self_iff.mpr ?_)
        rintro ⟨hfile, htruthy, hne⟩
        exact hnone n m hocc ⟨hm, hfile, htruthy, hne⟩
    refine hnode n (.top hn) _ (inheritFile_eq_self_iff.mpr ?_)
    rintro ⟨-, htruthy, -⟩
    cases htruthy

/-- A program is read for a file. -/
theorem file_of_ofDocument {file : String} {d : Document} {p : Program}
    (h : ofDocument file d = .ok p) : p.file = file := by
  unfold ofDocument at h
  split at h
  · cases h
    rfl
  · next items =>
    cases hitems : readAll (.ofFile file) items with
    | ok nodes =>
      rw [hitems] at h
      cases h
      rfl
    | error f =>
      rw [hitems] at h
      cases h
  · cases h

/-- **A dump is read again.** The dump of a program that was read is accepted, and gives a program
that is the same apart from its files; and this is the same program altogether exactly when no node
has strayed. -/
theorem read_dump {file : String} {d : Document} {p : Program} (h : ofDocument file d = .ok p) :
    ∃ q, ofDocument file (p.dump file) = .ok q ∧ q.unfiled = p.unfiled ∧
      (q = p ↔ ¬ ∃ m n : Node, m.Occurs p.body ∧ Node.Strayed file m n) := by
  have hfile := file_of_ofDocument h
  refine ⟨_, ofDocument_dump file p, ?_, ?_⟩
  · simp only [unfiled, List.map_map]
    refine List.map_congr_left fun n _ => Node.mapPlace_mapPlace ?_ n _ _
    intro _ around place
    rw [inheritFile_line]
  · obtain ⟨own, body⟩ := p
    obtain rfl : own = file := hfile
    rw [Program.mk.injEq, map_inheritFile_eq_self_iff]
    simp only [true_and, not_exists, not_and]

/-- An argument that says its file. -/
def quotedPart : Document :=
  mappingOf [("node", .str "var"), ("file", .str "main"), ("name", .str "x")]

/-- A call in one file with an argument in another. -/
def quotation : Document :=
  .list none [mappingOf [("node", .str "call"), ("file", .str "lib"), ("name", .str "shout"),
    ("args", .list none [quotedPart])]]

/-- The program of that call. -/
def quotationProgram : Program :=
  ⟨"main", [.call ⟨.str "lib", .int 0⟩ "shout" [.var ⟨.str "main", .int 0⟩ "x"]]⟩

theorem ofDocument_quotation : ofDocument "main" quotation = .ok quotationProgram := by
  have hpart : readNode ⟨"main", .str "lib", .int 0⟩ quotedPart =
      .ok (.var ⟨.str "main", .int 0⟩ "x") := readNode_var rfl rfl rfl
  have hargs : readAll ⟨"main", .str "lib", .int 0⟩ [quotedPart] =
      .ok [.var ⟨.str "main", .int 0⟩ "x"] := by
    rw [readAll, hpart, readAll]
    rfl
  have hcall : readNode (.ofFile "main") (mappingOf [("node", .str "call"), ("file", .str "lib"),
      ("name", .str "shout"), ("args", .list none [quotedPart])]) =
      .ok (.call ⟨.str "lib", .int 0⟩ "shout" [.var ⟨.str "main", .int 0⟩ "x"]) :=
    readNode_call rfl rfl rfl rfl hargs
  rw [quotation, ofDocument, readAll, hcall, readAll]
  rfl

theorem read_dump_of_quotation :
    ofDocument "main" quotation = .ok quotationProgram ∧
      ∃ q, ofDocument "main" (quotationProgram.dump "main") = .ok q ∧
        q.unfiled = quotationProgram.unfiled ∧ q ≠ quotationProgram := by
  obtain ⟨q, hq, hunfiled, hiff⟩ := read_dump ofDocument_quotation
  have hstrayed : Node.Strayed "main" (.call ⟨.str "lib", .int 0⟩ "shout"
      [.var ⟨.str "main", .int 0⟩ "x"]) (.var ⟨.str "main", .int 0⟩ "x") :=
    ⟨by simp [Node.children, Node.parts], rfl, rfl, by simp [Node.place]⟩
  exact ⟨ofDocument_quotation, q, hq, hunfiled,
    fun heq => hiff.mp heq ⟨_, _, .top (by simp [quotationProgram]), hstrayed⟩⟩

end Program

end Treewalk
