import Treewalk.Proofs.Grammar

/-!
# Whom a fault of the format blames

A document that is no program has a part that is malformed by itself. What a tag asks for is a table
(`Treewalk.Document.grammar`): for each key, whether a text, names, a node or a body is expected
there. With it, the flaws of a mapping can be told without a look at the nodes inside of it
(`Treewalk.Document.HasFlaw`), and a document is a node exactly if neither it nor a node inside of
it has one (`Treewalk.Document.isNode_iff`).

When the reader gives up, it is for such a flaw, in a part that it came to through tags that it
knows; and it would have said the same about that part alone. One step is
`Treewalk.Program.readNode_blames`: the fault is for a flaw of the document, or it is the fault of a
child. The rest is the way down, on which each node hands on its file and its line.

* **`Treewalk.Program.format_fault_blamed`**: the fault of a document is that of a malformed part,
  and says where that part stands.
-/

namespace Treewalk

namespace Document

/-! ### What a tag asks for -/

/-- What is expected under a key. -/
inductive Role where
  /-- A text. -/
  | text
  /-- A list of texts. -/
  | names
  /-- A node. -/
  | node
  /-- A list of nodes. -/
  | body
  /-- A list of nodes, or nothing. -/
  | otherBody
  /-- A list of nodes, or anything that counts as false. -/
  | arguments
  /-- A scalar, or nothing. -/
  | scalar

/-- **What each tag asks for**, key by key. -/
def grammar : String → List (String × Role)
  | "literal" => [("value", .scalar)]
  | "string" => [("value", .text)]
  | "var" => [("name", .text)]
  | "assign" => [("name", .text), ("value", .node)]
  | "if" => [("cond", .node), ("then", .body), ("else", .otherBody)]
  | "while" => [("cond", .node), ("body", .body)]
  | "def" => [("name", .text), ("params", .names), ("body", .body)]
  | "call" => [("args", .arguments), ("name", .text)]
  | _ => []

/-- Whether a document can be a name: a text is. -/
def isName : Document → Bool
  | .str _ => true
  | _ => false

namespace Role

/-- **What is wrong with what stands under a key**, or with that nothing does. -/
def flaw? (tag key : String) : Role → Option Document → Option FormatFault
  | .text, none | .names, none | .node, none | .body, none => some (.missing tag key)
  | .text, some (.str _) => none
  | .text, some _ => some (.wrongKind tag key .text)
  | .names, some (.list _ items) => (items.find? (!·.isName)).map (.notName tag key)
  | .names, some _ => some (.wrongKind tag key .list)
  | .node, some _ => none
  | .body, some (.list _ _) => none
  | .body, some _ => some (.wrongKind tag key .list)
  | .otherBody, none | .otherBody, some (.literal .nil) | .otherBody, some (.list _ _) => none
  | .otherBody, some _ => some (.wrongKind tag key .list)
  | .arguments, none | .arguments, some (.list _ _) => none
  | .arguments, some d => if d.truthy then some .argumentsNotList else none
  | .scalar, none | .scalar, some (.literal _) | .scalar, some (.str _) => none
  | .scalar, some d => some (.notScalar d)

/-- The nodes that stand under a key. -/
def nodes : Role → Option Document → List Document
  | .node, some d => [d]
  | .body, some (.list _ items) | .otherBody, some (.list _ items)
  | .arguments, some (.list _ items) => items
  | _, _ => []

section Misfits

variable {tag key : String} {d : Document}

theorem flaw?_text (h : ∀ s, d ≠ .str s) :
    text.flaw? tag key (some d) = some (.wrongKind tag key .text) := by
  cases d with
  | str s => exact (h s rfl).elim
  | _ => rfl

theorem flaw?_names (h : ∀ label items, d ≠ .list label items) :
    names.flaw? tag key (some d) = some (.wrongKind tag key .list) := by
  cases d with
  | list label items => exact (h label items rfl).elim
  | _ => rfl

theorem flaw?_body (h : ∀ label items, d ≠ .list label items) :
    body.flaw? tag key (some d) = some (.wrongKind tag key .list) := by
  cases d with
  | list label items => exact (h label items rfl).elim
  | _ => rfl

theorem flaw?_otherBody (hnil : d ≠ .nil) (h : ∀ label items, d ≠ .list label items) :
    otherBody.flaw? tag key (some d) = some (.wrongKind tag key .list) := by
  cases d with
  | list label items => exact (h label items rfl).elim
  | literal l =>
    cases l with
    | nil => exact (hnil rfl).elim
    | _ => rfl
  | _ => rfl

theorem flaw?_arguments (htruthy : d.truthy = true) (h : ∀ label items, d ≠ .list label items) :
    arguments.flaw? tag key (some d) = some .argumentsNotList := by
  cases d with
  | list label items => exact (h label items rfl).elim
  | _ => simp [flaw?, htruthy]

theorem flaw?_scalar (hliteral : ∀ l, d ≠ .literal l) (hstr : ∀ s, d ≠ .str s) :
    scalar.flaw? tag key (some d) = some (.notScalar d) := by
  cases d with
  | literal l => exact (hliteral l rfl).elim
  | str s => exact (hstr s rfl).elim
  | _ => rfl

/-- The first of the names that is none. -/
theorem flaw?_names_append {label : Option Nat} {names rest : List Document}
    (hnames : ∀ d ∈ names, d.isName = true) (hd : d.isName = false) :
    Role.names.flaw? tag key (some (.list label (names ++ d :: rest))) =
      some (.notName tag key d) := by
  have hnone : names.find? (!·.isName) = none := by simpa [List.find?_eq_none] using hnames
  simp [flaw?, List.find?_append, hnone, hd]

end Misfits

/-! What is not wrong is as it is expected. -/

section Fits

variable {tag key : String} {found : Option Document}

theorem eq_of_text (h : text.flaw? tag key found = none) : ∃ s, found = some (.str s) := by
  match found, h with
  | some (.str s), _ => exact ⟨s, rfl⟩

theorem exists_names {items : List Document} (h : ∀ d ∈ items, d.isName = true) :
    ∃ names : List String, items = names.map .str := by
  induction items with
  | nil => exact ⟨[], rfl⟩
  | cons d rest ih =>
    obtain ⟨names, rfl⟩ := ih fun e he => h e (by simp [he])
    match d, h d (by simp) with
    | .str s, _ => exact ⟨s :: names, rfl⟩

theorem eq_of_names (h : names.flaw? tag key found = none) :
    ∃ (label : Option Nat) (names : List String), found = some (.list label (names.map .str)) := by
  match found, h with
  | some (.list label items), h =>
    obtain ⟨names, rfl⟩ := @exists_names items (by simpa [flaw?] using h)
    exact ⟨label, names, rfl⟩

theorem eq_of_node (h : node.flaw? tag key found = none) : ∃ d, found = some d := by
  match found, h with
  | some d, _ => exact ⟨d, rfl⟩

theorem eq_of_body (h : body.flaw? tag key found = none) :
    ∃ label items, found = some (.list label items) := by
  match found, h with
  | some (.list label items), _ => exact ⟨label, items, rfl⟩

theorem eq_of_otherBody (h : otherBody.flaw? tag key found = none) :
    (∀ d, found = some d → d = .nil) ∨ ∃ label items, found = some (.list label items) := by
  match found, h with
  | none, _ => exact .inl (by simp)
  | some (.literal .nil), _ => exact .inl (by rintro _ ⟨⟩; rfl)
  | some (.list label items), _ => exact .inr ⟨label, items, rfl⟩

theorem eq_of_arguments (h : arguments.flaw? tag key found = none) :
    (∀ d, found = some d → d.truthy = false) ∨ ∃ label items, found = some (.list label items) := by
  match found, h with
  | none, _ => exact .inl (by simp)
  | some d, h =>
    by_cases hlist : ∃ label items, d = .list label items
    · obtain ⟨label, items, rfl⟩ := hlist
      exact .inr ⟨label, items, rfl⟩
    · refine .inl fun e he => ?_
      cases he
      by_contra htruthy
      have hnot (label : Option Nat) (items : List Document) (hd : d = .list label items) : False :=
        hlist ⟨label, items, hd⟩
      rw [flaw?_arguments (by simpa using htruthy) hnot] at h
      cases h

theorem eq_of_scalar (h : scalar.flaw? tag key found = none) :
    ∀ d, found = some d → d.IsScalar := by
  match found, h with
  | none, _ => simp
  | some (.literal l), _ => rintro _ ⟨⟩; trivial
  | some (.str s), _ => rintro _ ⟨⟩; trivial

end Fits

end Role

/-- **A document is malformed by itself**, and how: whatever the nodes inside of it are. -/
inductive HasFlaw : Document → FormatFault → Prop
  /-- It is neither a scalar nor a mapping. -/
  | notNode {d : Document} : ¬ d.IsScalar → (∀ label entries, d ≠ .mapping label entries) →
      HasFlaw d (.notNode d)
  /-- It is a mapping without a tag. -/
  | untagged {label : Option Nat} {entries : List (Document × Document)} :
      (∀ tag, find? "node" entries = some tag → tag = .nil) →
      HasFlaw (.mapping label entries) (.untagged (.mapping label entries))
  /-- Its tag is none of the eight. -/
  | unknownTag {label : Option Nat} {entries : List (Document × Document)} {tag : Document} :
      find? "node" entries = some tag → tag ≠ .nil → (∀ name, tag = .str name → grammar name = []) →
      HasFlaw (.mapping label entries) (.unknownTag tag)
  /-- Something that its tag asks for is missing, or not of the right kind. -/
  | part {label : Option Nat} {entries : List (Document × Document)} {tag key : String} {role : Role}
      {problem : FormatFault} :
      find? "node" entries = some (.str tag) → (key, role) ∈ grammar tag →
      role.flaw? tag key (find? key entries) = some problem →
      HasFlaw (.mapping label entries) problem

/-- **A node directly inside of a mapping**: its tag is one of the eight, and asks for that node. -/
inductive Child (entries : List (Document × Document)) (d : Document) : Prop
  | part {tag key : String} {role : Role} : find? "node" entries = some (.str tag) →
      (key, role) ∈ grammar tag → d ∈ role.nodes (find? key entries) → Child entries d

/-! ### Nodes are what has no flaws in it -/

section Nodes

variable {label : Option Nat} {entries : List (Document × Document)}

/-- **A mapping is as its tag asks for**: nothing is wrong under the keys, and the nodes there are
as `P` says. -/
def Fits (P : Document → Prop) (entries : List (Document × Document)) (tag : String) : Prop :=
  ∀ e ∈ grammar tag, e.2.flaw? tag e.1 (find? e.1 entries) = none ∧
    ∀ d ∈ e.2.nodes (find? e.1 entries), P d

/-- Every node fits its tag. -/
theorem IsNode.fits (h : IsNode (.mapping label entries)) :
    ∃ tag, find? "node" entries = some (.str tag) ∧ grammar tag ≠ [] ∧ Fits IsNode entries tag := by
  cases h with
  | literalNode htag hvalue =>
    refine ⟨_, htag, by simp [grammar], List.forall_mem_singleton.mpr ⟨?_, by simp [Role.nodes]⟩⟩
    cases hfound : find? "value" entries with
    | none => rfl
    | some d =>
      have hscalar := hvalue d hfound
      cases d with
      | literal | str => rfl
      | _ => exact hscalar.elim
  | stringNode htag hvalue =>
    exact ⟨_, htag, by simp [grammar], by simp [Fits, grammar, Role.flaw?, Role.nodes, hvalue]⟩
  | var htag hname =>
    exact ⟨_, htag, by simp [grammar], by simp [Fits, grammar, Role.flaw?, Role.nodes, hname]⟩
  | assign htag hname hvalue hd =>
    exact ⟨_, htag, by simp [grammar],
      by simp [Fits, grammar, Role.flaw?, Role.nodes, hname, hvalue, hd]⟩
  | cond htag htest hd hthen hitems helse =>
    refine ⟨_, htag, by simp [grammar], ?_⟩
    cases hfound : find? "else" entries with
    | none => simpa [Fits, grammar, Role.flaw?, Role.nodes, htest, hd, hthen, hfound] using hitems
    | some d =>
      obtain rfl := helse d hfound
      simpa [Fits, grammar, Role.flaw?, Role.nodes, htest, hd, hthen, hfound, nil] using hitems
  | condElse htag htest hd hthen hitems helse hitems' =>
    refine ⟨_, htag, by simp [grammar], ?_⟩
    simpa [Fits, grammar, Role.flaw?, Role.nodes, htest, hd, hthen, helse] using
      ⟨hitems, hitems'⟩
  | loop htag htest hd hbody hitems =>
    refine ⟨_, htag, by simp [grammar], ?_⟩
    simpa [Fits, grammar, Role.flaw?, Role.nodes, htest, hd, hbody] using hitems
  | define htag hname hparams hbody hitems =>
    refine ⟨_, htag, by simp [grammar], ?_⟩
    simpa [Fits, grammar, Role.flaw?, Role.nodes, hname, hparams, hbody, isName] using hitems
  | callBare htag hname hargs =>
    refine ⟨_, htag, by simp [grammar], ?_⟩
    cases hfound : find? "args" entries with
    | none => simp [Fits, grammar, Role.flaw?, Role.nodes, hname, hfound]
    | some d =>
      have htruthy := hargs d hfound
      cases d with
      | list label items =>
        obtain rfl : items = [] := by simpa [truthy] using htruthy
        simp [Fits, grammar, Role.flaw?, Role.nodes, hname, hfound]
      | _ => simp [Fits, grammar, Role.flaw?, Role.nodes, hname, hfound, htruthy]
  | call htag hname hargs hitems =>
    refine ⟨_, htag, by simp [grammar], ?_⟩
    simpa [Fits, grammar, Role.flaw?, Role.nodes, hname, hargs] using hitems

/-- **What fits its tag is a node.** -/
theorem Fits.isNode {tag : String} (htag : find? "node" entries = some (.str tag))
    (hknown : grammar tag ≠ []) (h : Fits IsNode entries tag) : IsNode (.mapping label entries) := by
  -- the tag is one of the eight
  unfold Fits at h
  unfold grammar at h hknown
  split at hknown
  case h_9 => exact absurd rfl hknown
  all_goals
    simp only [List.forall_mem_cons, List.not_mem_nil, false_implies, implies_true, and_true] at h
  case h_1 =>
    obtain ⟨hvalue, -⟩ := h
    exact .literalNode htag (Role.eq_of_scalar hvalue)
  case h_2 =>
    obtain ⟨hvalue, -⟩ := h
    obtain ⟨s, hs⟩ := Role.eq_of_text hvalue
    exact .stringNode htag hs
  case h_3 =>
    obtain ⟨hname, -⟩ := h
    obtain ⟨s, hs⟩ := Role.eq_of_text hname
    exact .var htag hs
  case h_4 =>
    obtain ⟨⟨hname, -⟩, hvalue, hnode⟩ := h
    obtain ⟨s, hs⟩ := Role.eq_of_text hname
    obtain ⟨d, hd⟩ := Role.eq_of_node hvalue
    exact .assign htag hs hd (hnode d (by simp [Role.nodes, hd]))
  case h_5 =>
    obtain ⟨⟨hcond, htest⟩, ⟨hthen, hitems⟩, helse, hitems'⟩ := h
    obtain ⟨d, hd⟩ := Role.eq_of_node hcond
    obtain ⟨_, items, hbody⟩ := Role.eq_of_body hthen
    rw [hd] at htest
    rw [hbody] at hitems
    rcases Role.eq_of_otherBody helse with hnone | ⟨_, items', hbody'⟩
    · exact .cond htag hd (htest d (by simp [Role.nodes])) hbody hitems hnone
    · rw [hbody'] at hitems'
      exact .condElse htag hd (htest d (by simp [Role.nodes])) hbody hitems hbody' hitems'
  case h_6 =>
    obtain ⟨⟨hcond, htest⟩, hbody, hitems⟩ := h
    obtain ⟨d, hd⟩ := Role.eq_of_node hcond
    obtain ⟨_, items, hbody⟩ := Role.eq_of_body hbody
    rw [hd] at htest
    rw [hbody] at hitems
    exact .loop htag hd (htest d (by simp [Role.nodes])) hbody hitems
  case h_7 =>
    obtain ⟨⟨hname, -⟩, ⟨hparams, -⟩, hbody, hitems⟩ := h
    obtain ⟨s, hs⟩ := Role.eq_of_text hname
    obtain ⟨_, params, hparams⟩ := Role.eq_of_names hparams
    obtain ⟨_, items, hbody⟩ := Role.eq_of_body hbody
    rw [hbody] at hitems
    exact .define htag hs hparams hbody hitems
  case h_8 =>
    obtain ⟨⟨hargs, hitems⟩, hname, -⟩ := h
    obtain ⟨s, hs⟩ := Role.eq_of_text hname
    rcases Role.eq_of_arguments hargs with hfalsy | ⟨_, items, hbody⟩
    · exact .callBare htag hs hfalsy
    · rw [hbody] at hitems
      exact .call htag hs hbody hitems

/-- A mapping without a flaw has a tag that is known, and what the tag asks for. -/
theorem flawless_iff : (∀ problem, ¬ HasFlaw (.mapping label entries) problem) ↔
    ∃ tag, find? "node" entries = some (.str tag) ∧ grammar tag ≠ [] ∧
      ∀ e ∈ grammar tag, e.2.flaw? tag e.1 (find? e.1 entries) = none := by
  constructor
  · intro h
    have htagged : ∃ tag, find? "node" entries = some tag ∧ tag ≠ .nil := by
      by_contra hnone
      exact h _ (.untagged fun tag htag => by_contra fun hnil => hnone ⟨tag, htag, hnil⟩)
    obtain ⟨tag, htag, hnil⟩ := htagged
    have hknown : ∃ name, tag = .str name ∧ grammar name ≠ [] := by
      by_contra hnone
      exact h _ (.unknownTag htag hnil fun name hname =>
        by_contra fun hempty => hnone ⟨name, hname, hempty⟩)
    obtain ⟨name, rfl, hname⟩ := hknown
    refine ⟨name, htag, hname, fun e he => ?_⟩
    cases hflaw : e.2.flaw? name e.1 (find? e.1 entries) with
    | none => rfl
    | some problem => exact (h problem (.part htag he hflaw)).elim
  · rintro ⟨tag, htag, hknown, hfits⟩ problem hflaw
    cases hflaw with
    | notNode _ hmapping => exact hmapping _ _ rfl
    | untagged hnil => cases hnil _ htag
    | unknownTag htag' _ hunknown =>
      cases htag.symm.trans htag'
      exact hknown (hunknown tag rfl)
    | part htag' hkey hflaw =>
      cases htag.symm.trans htag'
      rw [hfits _ hkey] at hflaw
      cases hflaw

/-- **A document is a node** exactly if it has no flaw, and what stands inside of it for a node is
one. -/
theorem isNode_iff {d : Document} : d.IsNode ↔ (∀ problem, ¬ d.HasFlaw problem) ∧
    ∀ label entries, d = .mapping label entries → ∀ e, Child entries e → e.IsNode := by
  by_cases hmapping : ∃ label entries, d = .mapping label entries
  · obtain ⟨label, entries, rfl⟩ := hmapping
    rw [flawless_iff]
    constructor
    · intro h
      obtain ⟨tag, htag, hknown, hfits⟩ := h.fits
      refine ⟨⟨tag, htag, hknown, fun e he => (hfits e he).1⟩, ?_⟩
      rintro _ _ ⟨⟩ e ⟨htag', hkey, he⟩
      cases htag.symm.trans htag'
      exact (hfits _ hkey).2 e he
    · rintro ⟨⟨tag, htag, hknown, hflawless⟩, hchildren⟩
      exact Fits.isNode htag hknown fun e he => ⟨hflawless e he, fun d hd =>
        hchildren label entries rfl d (.part htag he hd)⟩
  · have hother : ∀ label entries, d ≠ .mapping label entries :=
      fun label entries hd => hmapping ⟨label, entries, hd⟩
    constructor
    · intro h
      refine ⟨fun problem hflaw => ?_, fun label entries hd => (hother label entries hd).elim⟩
      cases hflaw with
      | notNode hscalar =>
        cases h with
        | literal | str => exact hscalar trivial
        | _ => exact hother _ _ rfl
      | _ => exact hother _ _ rfl
    · rintro ⟨hflawless, -⟩
      by_cases hscalar : d.IsScalar
      · cases d with
        | literal l => exact .literal l
        | str s => exact .str s
        | _ => exact hscalar.elim
      · exact (hflawless _ (.notNode hscalar hother)).elim

end Nodes

end Document

namespace Program

open Document

/-! ### One step -/

/-- What a fault of a reading is, if there is one. -/
def OnlyFaults {α : Type} (P : Fault → Prop) : Except Fault α → Prop
  | .ok _ => True
  | .error fault => P fault

theorem OnlyFaults.bind {α β : Type} {P : Fault → Prop} {x : Except Fault α}
    {f : α → Except Fault β} (hx : OnlyFaults P x) (hf : ∀ a, OnlyFaults P (f a)) :
    OnlyFaults P (x >>= f) := by
  cases x with
  | ok a => exact hf a
  | error fault => exact hx

theorem OnlyFaults.map {α β : Type} {P : Fault → Prop} {x : Except Fault α} {f : α → β}
    (hx : OnlyFaults P x) : OnlyFaults P (x.map f) := by
  cases x with
  | ok a => trivial
  | error fault => exact hx

/-- **The fault of a mapping**: it has a flaw, or the fault is that of a node directly inside of
it. -/
inductive Blames (c : Context) (label : Option Nat) (entries : List (Document × Document)) :
    Fault → Prop
  | own {problem : FormatFault} : HasFlaw (.mapping label entries) problem →
      Blames c label entries (Fault.ofFormat problem (blamePlace c entries))
  | child {d : Document} {fault : Fault} : Child entries d →
      readNode (c.within (c.placeOf entries)) d = .error fault → Blames c label entries fault

/-- The fault of a body is the fault of a node in it. -/
theorem readAll_faults {P : Fault → Prop} {c : Context} {items : List Document}
    (h : ∀ d ∈ items, ∀ fault, readNode c d = .error fault → P fault) :
    OnlyFaults P (readAll c items) := by
  induction items with
  | nil =>
    rw [readAll]
    trivial
  | cons d rest ih =>
    rw [readAll]
    refine OnlyFaults.bind ?_ fun _ => OnlyFaults.bind (ih fun e he => h e (by simp [he]))
      fun _ => trivial
    cases hd : readNode c d with
    | ok n => trivial
    | error fault => exact h d (by simp) fault hd

section Step

variable {c : Context} {label : Option Nat} {entries : List (Document × Document)} {tag : String}
  (htag : find? "node" entries = some (.str tag))
include htag

/-- A flaw under a key that the tag asks for. -/
theorem faults_own {α : Type} (key : String) (role : Role) (hkey : (key, role) ∈ grammar tag)
    {found : Option Document} (h : find? key entries = found) {problem : FormatFault}
    (hflaw : role.flaw? tag key found = some problem) :
    OnlyFaults (α := α) (Blames c label entries)
      (.error (Fault.ofFormat problem (blamePlace c entries))) :=
  .own (.part htag hkey (h ▸ hflaw))

theorem faults_text (key : String) (hkey : (key, .text) ∈ grammar tag) :
    OnlyFaults (Blames c label entries)
      (textAt (fun f => Fault.ofFormat f (blamePlace c entries)) tag key entries) := by
  rw [textAt]
  split
  · next h => exact faults_own htag key .text hkey h rfl
  · trivial
  · next hstr h => exact faults_own htag key .text hkey h (Role.flaw?_text hstr)

/-- The names are looked at one after the other: those before were texts. -/
theorem faults_namesOf (key : String) (hkey : (key, .names) ∈ grammar tag) {inner : Option Nat}
    (names : List Document) {items : List Document}
    (h : find? key entries = some (.list inner (names ++ items)))
    (hnames : ∀ d ∈ names, d.isName = true) :
    OnlyFaults (Blames c label entries)
      (namesOf (fun f => Fault.ofFormat f (blamePlace c entries)) tag key items) := by
  induction items generalizing names with
  | nil => trivial
  | cons d rest ih =>
    rw [namesOf.eq_def]
    split
    · trivial
    · next s rest' hcons =>
      cases hcons
      refine (ih (names ++ [.str s]) (by simpa using h) fun e he => ?_).map
      rcases List.mem_append.mp he with he | he
      · exact hnames e he
      · obtain rfl := List.mem_singleton.mp he
        rfl
    · next hstr hcons =>
      cases hcons
      have hd : d.isName = false := by
        cases d with
        | str s => exact (hstr s rfl).elim
        | _ => rfl
      exact faults_own htag key .names hkey h (Role.flaw?_names_append hnames hd)

theorem faults_names (key : String) (hkey : (key, .names) ∈ grammar tag) :
    OnlyFaults (Blames c label entries)
      (namesAt (fun f => Fault.ofFormat f (blamePlace c entries)) tag key entries) := by
  rw [namesAt]
  split
  · next h => exact faults_own htag key .names hkey h rfl
  · next h => exact faults_namesOf htag key hkey [] h (by simp)
  · next hlist h => exact faults_own htag key .names hkey h (Role.flaw?_names hlist)

theorem faults_node (key : String) (hkey : (key, .node) ∈ grammar tag) {d : Document}
    (h : find? key entries = some d) :
    OnlyFaults (Blames c label entries) (readNode (c.within (c.placeOf entries)) d) := by
  cases hd : readNode (c.within (c.placeOf entries)) d with
  | ok n => trivial
  | error fault => exact .child (.part htag hkey (h ▸ List.mem_singleton_self d)) hd

theorem faults_body (key : String) (role : Role) (hkey : (key, role) ∈ grammar tag)
    {found : Option Document} (h : find? key entries = found) {items : List Document}
    (hitems : role.nodes found = items) :
    OnlyFaults (Blames c label entries) (readAll (c.within (c.placeOf entries)) items) := by
  subst h hitems
  exact readAll_faults fun _ hd _ hfault => .child (.part htag hkey hd) hfault

end Step

section Tags

variable {c : Context} {label : Option Nat} {entries : List (Document × Document)}

theorem faults_literal (htag : find? "node" entries = some (.str "literal")) :
    OnlyFaults (Blames c label entries) (readNode c (.mapping label entries)) := by
  rw [readNode]
  simp only [htag]
  split
  · trivial
  · trivial
  · trivial
  · next hstr hliteral h =>
    exact faults_own htag "value" .scalar (by simp [grammar]) h (Role.flaw?_scalar hliteral hstr)

theorem faults_assign (htag : find? "node" entries = some (.str "assign")) :
    OnlyFaults (Blames c label entries) (readNode c (.mapping label entries)) := by
  rw [readNode]
  simp only [htag]
  refine (faults_text htag "name" (by simp [grammar])).bind fun _ => ?_
  split
  · next h => exact faults_own htag "value" .node (by simp [grammar]) h rfl
  · next h => exact (faults_node htag "value" (by simp [grammar]) h).bind fun _ => trivial

theorem faults_cond (htag : find? "node" entries = some (.str "if")) :
    OnlyFaults (Blames c label entries) (readNode c (.mapping label entries)) := by
  rw [readNode]
  simp only [htag]
  split
  · next h => exact faults_own htag "cond" .node (by simp [grammar]) h rfl
  · next h =>
    refine (faults_node htag "cond" (by simp [grammar]) h).bind fun _ => ?_
    split
    · next h => exact faults_own htag "then" .body (by simp [grammar]) h rfl
    · next h =>
      refine (faults_body htag "then" .body (by simp [grammar]) h rfl).bind fun _ => ?_
      split
      · trivial
      · trivial
      · next h =>
        exact (faults_body htag "else" .otherBody (by simp [grammar]) h rfl).bind fun _ => trivial
      · next hnil hlist h =>
        exact faults_own htag "else" .otherBody (by simp [grammar]) h
          (Role.flaw?_otherBody hnil hlist)
    · next hlist h =>
      exact faults_own htag "then" .body (by simp [grammar]) h (Role.flaw?_body hlist)

theorem faults_loop (htag : find? "node" entries = some (.str "while")) :
    OnlyFaults (Blames c label entries) (readNode c (.mapping label entries)) := by
  rw [readNode]
  simp only [htag]
  split
  · next h => exact faults_own htag "cond" .node (by simp [grammar]) h rfl
  · next h =>
    refine (faults_node htag "cond" (by simp [grammar]) h).bind fun _ => ?_
    split
    · next h => exact faults_own htag "body" .body (by simp [grammar]) h rfl
    · next h =>
      exact (faults_body htag "body" .body (by simp [grammar]) h rfl).bind fun _ => trivial
    · next hlist h =>
      exact faults_own htag "body" .body (by simp [grammar]) h (Role.flaw?_body hlist)

theorem faults_define (htag : find? "node" entries = some (.str "def")) :
    OnlyFaults (Blames c label entries) (readNode c (.mapping label entries)) := by
  rw [readNode]
  simp only [htag]
  refine (faults_text htag "name" (by simp [grammar])).bind fun _ => ?_
  refine (faults_names htag "params" (by simp [grammar])).bind fun _ => ?_
  split
  · next h => exact faults_own htag "body" .body (by simp [grammar]) h rfl
  · next h => exact (faults_body htag "body" .body (by simp [grammar]) h rfl).bind fun _ => trivial
  · next hlist h =>
    exact faults_own htag "body" .body (by simp [grammar]) h (Role.flaw?_body hlist)

theorem faults_call (htag : find? "node" entries = some (.str "call")) :
    OnlyFaults (Blames c label entries) (readNode c (.mapping label entries)) := by
  rw [readNode]
  simp only [htag]
  have hname := @faults_text c label entries "call" htag "name" (by simp [grammar])
  split
  · exact hname.bind fun _ => trivial
  · next h =>
    refine hname.bind fun _ => ?_
    exact (faults_body htag "args" .arguments (by simp [grammar]) h rfl).bind fun _ => trivial
  · next hlist h =>
    split
    · next htruthy =>
      exact faults_own htag "args" .arguments (by simp [grammar]) h
        (Role.flaw?_arguments htruthy hlist)
    · exact hname.bind fun _ => trivial

/-- **One step**: the fault of a mapping is for a flaw of its own, or it is the fault of a node
directly inside of it. -/
theorem readNode_blames : OnlyFaults (Blames c label entries)
    (readNode c (.mapping label entries)) := by
  by_cases hliteral : find? "node" entries = some (.str "literal")
  · exact faults_literal hliteral
  by_cases hstring : find? "node" entries = some (.str "string")
  · rw [readNode]
    simp only [hstring]
    exact (faults_text hstring "value" (by simp [grammar])).bind fun _ => trivial
  by_cases hvar : find? "node" entries = some (.str "var")
  · rw [readNode]
    simp only [hvar]
    exact (faults_text hvar "name" (by simp [grammar])).bind fun _ => trivial
  by_cases hassign : find? "node" entries = some (.str "assign")
  · exact faults_assign hassign
  by_cases hcond : find? "node" entries = some (.str "if")
  · exact faults_cond hcond
  by_cases hloop : find? "node" entries = some (.str "while")
  · exact faults_loop hloop
  by_cases hdefine : find? "node" entries = some (.str "def")
  · exact faults_define hdefine
  by_cases hcall : find? "node" entries = some (.str "call")
  · exact faults_call hcall
  rw [readNode]
  split
  case h_1 h =>
    refine .own (.untagged fun tag htag => ?_)
    cases h.symm.trans htag
  case h_2 h =>
    refine .own (.untagged fun tag htag => ?_)
    cases h.symm.trans htag
    rfl
  case h_11 tag hnil _ _ _ _ _ _ _ _ htag =>
    refine .own (.unknownTag htag (fun h => hnil h) fun name hname => ?_)
    subst hname
    rw [grammar.eq_9] <;>
    · rintro rfl
      contradiction
  all_goals contradiction

end Tags

/-! ### The way down -/

/-- **The way down to a node**: through mappings whose tag is known, each of which hands on its file
and its line. -/
inductive Reaches : Context → Document → Context → Document → Prop
  | here (c : Context) (d : Document) : Reaches c d c d
  | child {c c' : Context} {label : Option Nat} {entries : List (Document × Document)}
      {d d' : Document} : Child entries d → Reaches (c.within (c.placeOf entries)) d c' d' →
      Reaches c (.mapping label entries) c' d'

/-- The name of the program is handed on. -/
theorem Reaches.root_eq {c c' : Context} {d d' : Document} (h : Reaches c d c' d') :
    c'.root = c.root := by
  induction h with
  | here => rfl
  | child _ _ ih => exact ih

/-- Where a document is blamed for its flaws: a mapping at its place, if it has a line of its
own. -/
def blamePlaceOf (c : Context) : Document → Place
  | .mapping _ entries => blamePlace c entries
  | _ => .nowhere

/-- The nodes under a key are smaller than the mapping. -/
theorem sizeOf_child {entries : List (Document × Document)} {d : Document} (h : Child entries d) :
    sizeOf d < sizeOf entries := by
  obtain @⟨tag, key, role, -, -, hd⟩ := h
  cases hfound : find? key entries with
  | none =>
    rw [hfound] at hd
    cases role <;> cases hd
  | some found =>
    have hsize := sizeOf_find? hfound
    rw [hfound] at hd
    have hitem {label : Option Nat} {items : List Document} (hlist : found = .list label items)
        (hmem : d ∈ items) : sizeOf d < sizeOf entries := by
      subst hlist
      have hlt := List.sizeOf_lt_of_mem hmem
      rw [list.sizeOf_spec] at hsize
      omega
    cases role with
    | node =>
      obtain rfl := List.mem_singleton.mp hd
      exact hsize
    | body | otherBody | arguments =>
      cases found with
      | list label items => exact hitem rfl hd
      | _ => cases hd
    | text | names | scalar => cases found <;> cases hd

/-- **What is not read has a malformed part**: one that is reached through tags that are known, that
has a flaw of its own, and that is not read either, with the same fault. -/
theorem exists_flaw {fault : Fault} (d : Document) (c : Context)
    (h : readNode c d = .error fault) : ∃ c' d' problem, Reaches c d c' d' ∧ d'.HasFlaw problem ∧
      readNode c' d' = .error fault ∧ fault = Fault.ofFormat problem (blamePlaceOf c' d') := by
  -- on the size: a child is an entry of the mapping, or stands in a list that is one
  induction hd : sizeOf d using Nat.strongRecOn generalizing d c with | ind size ih =>
  subst hd
  cases d with
  | literal l | str s =>
    rw [readNode] at h
    cases h
  | mapping label entries =>
    have hstep : Blames c label entries fault := by
      have hfaults := @readNode_blames c label entries
      rwa [h] at hfaults
    cases hstep with
    | own hflaw => exact ⟨c, _, _, .here _ _, hflaw, h, rfl⟩
    | @child e _ hchild he =>
      have hsize : sizeOf e < sizeOf (mapping label entries) := by
        have := sizeOf_child hchild
        simp only [mapping.sizeOf_spec]
        omega
      obtain ⟨c', d', problem, hreach, hrest⟩ := ih _ hsize e (c.within (c.placeOf entries)) he rfl
      exact ⟨c', d', problem, .child hchild hreach, hrest⟩
  | date | moment | back | list =>
    refine ⟨c, _, _, .here _ _, .notNode id ?_, h, ?_⟩
    · rintro _ _ ⟨⟩
    · simp only [readNode] at h
      exact (Except.error.inj h).symm

/-- A fault of the format that is raised has its problem and its place. -/
theorem eq_of_raised_format {problem problem' : FormatFault} {place place' : Place}
    (h : Fault.raised (.format problem) place = Fault.ofFormat problem' place') :
    problem' = problem ∧ place' = place := by
  unfold Fault.ofFormat Fault.raise at h
  split at h
  · cases h
    exact ⟨rfl, rfl⟩
  · cases h

/-- A document is blamed at the place of a node there if it says a line, and nowhere otherwise. -/
theorem blamePlaceOf_eq (c : Context) (d : Document) :
    (∃ label entries line, d = .mapping label entries ∧ find? "line" entries = some line ∧
        line ≠ .nil ∧ blamePlaceOf c d =
          ⟨(find? "file" entries).getD (if c.file.truthy then c.file else .str c.root), line⟩) ∨
      (∀ label entries line, d = .mapping label entries → find? "line" entries = some line →
        line = .nil) ∧ blamePlaceOf c d = .nowhere := by
  cases d with
  | mapping label entries =>
    cases hline : find? "line" entries with
    | none =>
      refine .inr ⟨?_, by rw [blamePlaceOf, blamePlace, hline]⟩
      rintro _ _ line ⟨⟩ hsome
      cases hline.symm.trans hsome
    | some line =>
      by_cases hnil : line = .nil
      · subst hnil
        refine .inr ⟨?_, by rw [blamePlaceOf, blamePlace, hline]; rfl⟩
        rintro _ _ line ⟨⟩ hsome
        cases hline.symm.trans hsome
        rfl
      · refine .inl ⟨label, entries, line, rfl, hline, hnil, ?_⟩
        have hisNil : line.isNil = false := by
          cases line with
          | literal l => cases l <;> first | exact (hnil rfl).elim | rfl
          | _ => rfl
        simp [blamePlaceOf, blamePlace, hline, hisNil, Context.placeOf, Context.inherited]
  | _ =>
    refine .inr ⟨?_, rfl⟩
    rintro _ _ _ ⟨⟩

/-- **The fault of a document is that of a malformed part.** Let a list be rejected for its format.
Then one of its items leads, through tags that are known, to a document that stands where a node is
expected and has the flaw that the fault is about, whatever the nodes inside of it are. To read that
document alone, with the file and the line around it, ends in the same fault. If it is a mapping
that says its line, the fault has that line and the file of a node at this position: the one the
mapping says, else the one around it, else that of the program. In all other cases the fault has no
place. -/
theorem format_fault_blamed {file : String} {label : Option Nat} {items : List Document}
    {problem : FormatFault} {place : Place}
    (h : ofDocument file (.list label items) = .error (.raised (.format problem) place)) :
    ∃ item ∈ items, ∃ c d, Reaches (.ofFile file) item c d ∧ d.HasFlaw problem ∧
      readNode c d = .error (.raised (.format problem) place) ∧
      ((∃ inner entries line, d = .mapping inner entries ∧ find? "line" entries = some line ∧
          line ≠ .nil ∧ place =
            ⟨(find? "file" entries).getD (if c.file.truthy then c.file else .str file), line⟩) ∨
        (∀ inner entries line, d = .mapping inner entries → find? "line" entries = some line →
          line = .nil) ∧ place = .nowhere) := by
  have hitems : OnlyFaults
      (fun fault => ∃ item ∈ items, readNode (.ofFile file) item = .error fault)
      (ofDocument file (.list label items)) :=
    (readAll_faults fun item hitem _ hfault => ⟨item, hitem, hfault⟩).bind fun _ => trivial
  rw [h] at hitems
  obtain ⟨item, hitem, hfault⟩ := hitems
  obtain ⟨c, d, problem', hreach, hflaw, hread, heq⟩ := exists_flaw item _ hfault
  obtain ⟨rfl, rfl⟩ := eq_of_raised_format heq
  refine ⟨item, hitem, c, d, hreach, hflaw, hread, ?_⟩
  have hroot : c.root = file := hreach.root_eq
  rw [← hroot]
  exact blamePlaceOf_eq c d

/-- A loop in another file, with a call in it that has no name. -/
def namelessCall : Document :=
  .list none [mappingOf [("node", .str "while"), ("file", .str "lib"), ("cond", .bool true),
    ("body", .list none [mappingOf [("node", .str "call"), ("line", .str "12b")]])]]

/-- The fault is at the line of the call, in the file of the loop. -/
theorem format_fault_blamed_of_namelessCall :
    ∃ c d, d.HasFlaw (.missing "call" "name") ∧ readNode c d =
      .error (.raised (.format (.missing "call" "name")) ⟨.str "lib", .str "12b"⟩) := by
  have h : ofDocument "main" namelessCall =
      .error (.raised (.format (.missing "call" "name")) ⟨.str "lib", .str "12b"⟩) := by
    simp [ofDocument, namelessCall, mappingOf, readAll, readNode, find?, sameKey, Document.bool]
    rfl
  obtain ⟨_, _, c, d, -, hflaw, hread, -⟩ := format_fault_blamed h
  exact ⟨c, d, hflaw, hread⟩

end Program

end Treewalk
