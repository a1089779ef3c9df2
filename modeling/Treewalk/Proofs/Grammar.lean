import Treewalk.Proofs.ReadBack

/-!
# The grammar of programs

Which documents are programs can be said without reading them. A *node* is a scalar, or a mapping
whose tag is one of eight and which has under its keys what the tag asks for; a program is nil or a
list of nodes (`Treewalk.Document.IsNode`, `Treewalk.Document.IsProgram`). Keys that the tag does
not ask for may hold anything, and so may the line and the file.

The reader accepts exactly these documents. What it says to others is a fault of their format, at
the first part that is malformed; and the fault can be written, unless the document holds an integer
with too many digits.

* **`Treewalk.Program.readNode_of_isNode`**: every node is read.
* **`Treewalk.Program.readNode_ends`**: what is read is a node, and what is not read is blamed.
* **`Treewalk.Program.ofDocument_accepts`**: the two together, for whole documents.
-/

namespace Treewalk

namespace Document

/-! ### The grammar -/

/-- Whether a document is a scalar that a literal may hold: a text, a number, a truth value or
nil. -/
def IsScalar : Document → Prop
  | .literal _ | .str _ => True
  | _ => False

/-- **A document is a node.** -/
inductive IsNode : Document → Prop
  /-- A number, a truth value or nil stands for itself. -/
  | literal (l : Literal) : IsNode (.literal l)
  /-- So does a text. -/
  | str (s : String) : IsNode (.str s)
  /-- A literal may have a value, which is a scalar. -/
  | literalNode {label : Option Nat} {entries : List (Document × Document)} :
      find? "node" entries = some (.str "literal") →
      (∀ d, find? "value" entries = some d → d.IsScalar) → IsNode (.mapping label entries)
  /-- A string has a text. -/
  | stringNode {label : Option Nat} {entries : List (Document × Document)} {s : String} :
      find? "node" entries = some (.str "string") → find? "value" entries = some (.str s) →
      IsNode (.mapping label entries)
  /-- A variable has a name. -/
  | var {label : Option Nat} {entries : List (Document × Document)} {name : String} :
      find? "node" entries = some (.str "var") → find? "name" entries = some (.str name) →
      IsNode (.mapping label entries)
  /-- An assignment has a name and a node. -/
  | assign {label : Option Nat} {entries : List (Document × Document)} {name : String}
      {value : Document} :
      find? "node" entries = some (.str "assign") → find? "name" entries = some (.str name) →
      find? "value" entries = some value → IsNode value → IsNode (.mapping label entries)
  /-- A condition has a test and a body; the other body may be missing. -/
  | cond {label inner : Option Nat} {entries : List (Document × Document)} {test : Document}
      {items : List Document} :
      find? "node" entries = some (.str "if") → find? "cond" entries = some test → IsNode test →
      find? "then" entries = some (.list inner items) → (∀ d ∈ items, IsNode d) →
      (∀ d, find? "else" entries = some d → d = .nil) → IsNode (.mapping label entries)
  /-- Or there are two bodies. -/
  | condElse {label inner inner' : Option Nat} {entries : List (Document × Document)}
      {test : Document} {items items' : List Document} :
      find? "node" entries = some (.str "if") → find? "cond" entries = some test → IsNode test →
      find? "then" entries = some (.list inner items) → (∀ d ∈ items, IsNode d) →
      find? "else" entries = some (.list inner' items') → (∀ d ∈ items', IsNode d) →
      IsNode (.mapping label entries)
  /-- A loop has a test and a body. -/
  | loop {label inner : Option Nat} {entries : List (Document × Document)} {test : Document}
      {items : List Document} :
      find? "node" entries = some (.str "while") → find? "cond" entries = some test →
      IsNode test → find? "body" entries = some (.list inner items) → (∀ d ∈ items, IsNode d) →
      IsNode (.mapping label entries)
  /-- A definition has a name, a list of names and a body. -/
  | define {label inner inner' : Option Nat} {entries : List (Document × Document)}
      {name : String} {params : List String} {items : List Document} :
      find? "node" entries = some (.str "def") → find? "name" entries = some (.str name) →
      find? "params" entries = some (.list inner' (params.map .str)) →
      find? "body" entries = some (.list inner items) → (∀ d ∈ items, IsNode d) →
      IsNode (.mapping label entries)
  /-- A call has a name; its arguments may be missing, or count as false. -/
  | callBare {label : Option Nat} {entries : List (Document × Document)} {name : String} :
      find? "node" entries = some (.str "call") → find? "name" entries = some (.str name) →
      (∀ d, find? "args" entries = some d → d.truthy = false) → IsNode (.mapping label entries)
  /-- Or they are a list of nodes. -/
  | call {label inner : Option Nat} {entries : List (Document × Document)} {name : String}
      {items : List Document} :
      find? "node" entries = some (.str "call") → find? "name" entries = some (.str name) →
      find? "args" entries = some (.list inner items) → (∀ d ∈ items, IsNode d) →
      IsNode (.mapping label entries)

/-- **A document is a program**: nil, or a list of nodes. -/
inductive IsProgram : Document → Prop
  | nil : IsProgram .nil
  | list {label : Option Nat} {items : List Document} :
      (∀ d ∈ items, IsNode d) → IsProgram (.list label items)

/-! ### Parts of a document that can be written -/

theorem hasHugeInt_of_mem {items : List Document} {d : Document} (h : anyHuge items = false)
    (hd : d ∈ items) : d.hasHugeInt = false := by
  induction items with
  | nil => cases hd
  | cons e rest ih =>
    obtain ⟨he, hrest⟩ := Bool.or_eq_false_iff.mp h
    rcases List.mem_cons.mp hd with rfl | hd
    · exact he
    · exact ih hrest hd

theorem hasHugeInt_of_find? {key : String} {entries : List (Document × Document)} {d : Document}
    (h : anyHugeEntry entries = false) (hd : find? key entries = some d) :
    d.hasHugeInt = false := by
  induction entries with
  | nil => cases hd
  | cons e rest ih =>
    obtain ⟨k, v⟩ := e
    obtain ⟨hkv, hrest⟩ := Bool.or_eq_false_iff.mp h
    simp only [find?] at hd
    split at hd
    · cases hd
      exact (Bool.or_eq_false_iff.mp hkv).2
    · exact ih hrest hd

end Document

/-- A fault of a document's format that can be written is raised as it is. -/
theorem Fault.ofFormat_of_isWritable {problem : FormatFault} {place : Place}
    (hproblem : problem.isWritable = true) (hplace : place.isWritable = true) :
    Fault.ofFormat problem place = .raised (.format problem) place := by
  simp [ofFormat, raise, Cause.isWritable, hproblem, hplace]

namespace Program

open Document

/-! ### Every node is read -/

theorem readAll_of_forall {c : Context} : ∀ {items : List Document},
    (∀ d ∈ items, ∃ n, readNode c d = .ok n) → ∃ body, readAll c items = .ok body
  | [], _ => ⟨[], by rw [readAll]⟩
  | d :: rest, h => by
    obtain ⟨n, hn⟩ := h d (by simp)
    have hrest : ∀ e ∈ rest, ∃ n, readNode c e = .ok n := fun e he => h e (by simp [he])
    obtain ⟨body, hbody⟩ := readAll_of_forall hrest
    exact ⟨n :: body, by rw [readAll, hn, hbody]; rfl⟩

section Missing

variable {c : Context} {label inner : Option Nat} {entries : List (Document × Document)}
  {name : String} {d : Document} {items : List Document} {n : Node} {body : List Node}

/-- A literal without a value is nil, and one whose value is a text is a text. -/
theorem readNode_literalNode (htag : find? "node" entries = some (.str "literal"))
    (hvalue : ∀ d, find? "value" entries = some d → d.IsScalar) :
    ∃ n, readNode c (.mapping label entries) = .ok n := by
  rw [readNode]
  simp only [htag]
  cases hv : find? "value" entries with
  | none => exact ⟨_, rfl⟩
  | some d =>
    have hscalar := hvalue d hv
    cases d with
    | literal l => exact ⟨_, rfl⟩
    | str s => exact ⟨_, rfl⟩
    | date | moment | list | mapping | back => exact hscalar.elim

/-- A second body that is nil is none. -/
theorem readNode_cond_of_nil (htag : find? "node" entries = some (.str "if"))
    (htest : find? "cond" entries = some d)
    (hthen : find? "then" entries = some (.list inner items))
    (hd : readNode (c.within (c.placeOf entries)) d = .ok n)
    (hitems : readAll (c.within (c.placeOf entries)) items = .ok body)
    (helse : find? "else" entries = some .nil) :
    readNode c (.mapping label entries) = .ok (.cond (c.placeOf entries) n body none) := by
  rw [readNode]
  simp only [htag]
  split
  · next h => cases htest.symm.trans h
  · next h =>
    cases htest.symm.trans h
    rw [hd]
    split
    · next h => cases hthen.symm.trans h
    · next h =>
      cases hthen.symm.trans h
      rw [hitems]
      simp only [bind, Except.bind]
      split
      · rfl
      · rfl
      · next h => cases helse.symm.trans h
      · next hnil _ h =>
        cases helse.symm.trans h
        exact (hnil rfl).elim
    · next hother h =>
      cases hthen.symm.trans h
      exact (hother _ _ rfl).elim

/-- Arguments that are missing or count as false are none. -/
theorem readNode_callBare (htag : find? "node" entries = some (.str "call"))
    (hname : find? "name" entries = some (.str name))
    (hargs : ∀ d, find? "args" entries = some d → d.truthy = false) :
    readNode c (.mapping label entries) = .ok (.call (c.placeOf entries) name []) := by
  rw [readNode]
  simp only [htag, textAt, hname]
  split
  · rfl
  · next label items h =>
    have hempty := hargs _ h
    cases items with
    | nil =>
      rw [readAll]
      rfl
    | cons d rest => cases hempty
  · next d _ h =>
    rw [if_neg (by simp [hargs d h])]
    rfl

end Missing

/-- **Every node is read**, in every context. -/
theorem readNode_of_isNode {d : Document} (h : d.IsNode) : ∀ c, ∃ n, readNode c d = .ok n := by
  induction h with
  | literal l => exact fun c => ⟨_, by rw [readNode]⟩
  | str s => exact fun c => ⟨_, by rw [readNode]⟩
  | literalNode htag hvalue => exact fun c => readNode_literalNode htag hvalue
  | stringNode htag hvalue => exact fun c => ⟨_, readNode_string rfl htag hvalue⟩
  | var htag hname => exact fun c => ⟨_, readNode_var rfl htag hname⟩
  | assign htag hname hvalue _ ih =>
    intro c
    obtain ⟨n, hn⟩ := ih (c.within (c.placeOf _))
    exact ⟨_, readNode_assign rfl htag hname hvalue hn⟩
  | @cond _ _ entries _ _ htag htest _ hthen _ helse ih ihs =>
    intro c
    obtain ⟨n, hn⟩ := ih (c.within (c.placeOf entries))
    obtain ⟨body, hbody⟩ := readAll_of_forall fun d hd => ihs d hd (c.within (c.placeOf entries))
    cases he : find? "else" entries with
    | none => exact ⟨.cond _ n body none, readNode_cond rfl htag htest hthen hn hbody he⟩
    | some d =>
      obtain rfl := helse d he
      exact ⟨_, readNode_cond_of_nil htag htest hthen hn hbody he⟩
  | @condElse _ _ _ entries _ _ _ htag htest _ hthen _ helse _ ih ihs ihs' =>
    intro c
    obtain ⟨n, hn⟩ := ih (c.within (c.placeOf entries))
    obtain ⟨body, hbody⟩ := readAll_of_forall fun d hd => ihs d hd (c.within (c.placeOf entries))
    obtain ⟨body', hbody'⟩ := readAll_of_forall fun d hd => ihs' d hd (c.within (c.placeOf entries))
    exact ⟨.cond _ n body (some body'),
      readNode_cond rfl htag htest hthen hn hbody ⟨_, _, helse, hbody'⟩⟩
  | @loop _ _ entries _ _ htag htest _ hbody _ ih ihs =>
    intro c
    obtain ⟨n, hn⟩ := ih (c.within (c.placeOf entries))
    obtain ⟨body, hitems⟩ := readAll_of_forall fun d hd => ihs d hd (c.within (c.placeOf entries))
    exact ⟨_, readNode_loop rfl htag htest hbody hn hitems⟩
  | @define _ _ _ entries _ _ _ htag hname hparams hbody _ ihs =>
    intro c
    obtain ⟨body, hitems⟩ := readAll_of_forall fun d hd => ihs d hd (c.within (c.placeOf entries))
    exact ⟨_, readNode_define rfl htag hname hparams hbody hitems⟩
  | callBare htag hname hargs => exact fun c => ⟨_, readNode_callBare htag hname hargs⟩
  | @call _ _ entries _ _ htag hname hargs _ ihs =>
    intro c
    obtain ⟨body, hitems⟩ := readAll_of_forall fun d hd => ihs d hd (c.within (c.placeOf entries))
    exact ⟨_, readNode_call rfl htag hname hargs hitems⟩

/-! ### What is read is a node, and what is not read is blamed -/

/-- What a reading comes to: what it gives is as `P` says, and a fault that ends it is one of the
document's format, which can be written if `W` holds. -/
def Ends {α : Type} (W : Prop) (P : α → Prop) : Except Fault α → Prop
  | .ok a => P a
  | .error fault => ∃ problem place, fault = Fault.ofFormat problem place ∧
      (W → problem.isWritable = true ∧ place.isWritable = true)

namespace Ends

variable {α β : Type} {W : Prop} {P : α → Prop} {Q : β → Prop} {x : Except Fault α}
  {f : α → Except Fault β}

theorem bind (hx : Ends W P x) (hf : ∀ a, P a → Ends W Q (f a)) : Ends W Q (x >>= f) := by
  cases x with
  | ok a => exact hf a hx
  | error fault => exact hx

theorem imp {P' : α → Prop} (hx : Ends W P x) (h : ∀ a, P a → P' a) : Ends W P' x := by
  cases x with
  | ok a => exact h a hx
  | error fault => exact hx

theorem map {g : α → β} (hx : Ends W P x) (hg : ∀ a, P a → Q (g a)) : Ends W Q (x.map g) := by
  cases x with
  | ok a => exact hg a hx
  | error fault => exact hx

end Ends

/-- The nodes of a body are read one after the other. -/
theorem readAll_ends {W : Prop} {c : Context} {items : List Document}
    (h : ∀ d ∈ items, Ends W (fun _ => d.IsNode) (readNode c d)) :
    Ends W (fun _ => ∀ d ∈ items, d.IsNode) (readAll c items) := by
  induction items with
  | nil =>
    rw [readAll]
    exact fun d hd => absurd hd List.not_mem_nil
  | cons d rest ih =>
    rw [readAll]
    refine (h d (by simp)).bind fun _ hd => ?_
    refine (ih fun e he => h e (by simp [he])).bind fun _ hrest => ?_
    exact List.forall_mem_cons.mpr ⟨hd, hrest⟩

/-- **What is known of the parts of a mapping** when it is read: its faults can be written if `W`
holds, and each part that is asked for a node, or for a list of nodes, is one if it is read. -/
structure Parts (W : Prop) (c : Context) (entries : List (Document × Document)) : Prop where
  blame : ∀ {α : Type} {P : α → Prop} (f : FormatFault), (W → f.isWritable = true) →
    Ends W P (.error (Fault.ofFormat f (blamePlace c entries)))
  node : ∀ {key d}, find? key entries = some d →
    Ends W (fun _ => d.IsNode) (readNode (c.within (c.placeOf entries)) d)
  body : ∀ {key label items}, find? key entries = some (.list label items) →
    Ends W (fun _ => ∀ d ∈ items, d.IsNode) (readAll (c.within (c.placeOf entries)) items)
  part : ∀ {key d}, find? key entries = some d → W → d.hasHugeInt = false

namespace Parts

variable {W : Prop} {c : Context} {entries : List (Document × Document)} (h : Parts W c entries)
include h

theorem text (tag key : String) :
    Ends W (fun s => find? key entries = some (.str s))
      (textAt (fun f => Fault.ofFormat f (blamePlace c entries)) tag key entries) := by
  rw [textAt]
  split
  · exact h.blame _ fun _ => rfl
  · next hkey => exact hkey
  · exact h.blame _ fun _ => rfl

theorem namesOf (tag key : String) {items : List Document} (hitems : W → anyHuge items = false) :
    Ends W (fun names => items = names.map .str)
      (namesOf (fun f => Fault.ofFormat f (blamePlace c entries)) tag key items) := by
  induction items with
  | nil => exact rfl
  | cons d rest ih =>
    have hd (w : W) : d.hasHugeInt = false := (Bool.or_eq_false_iff.mp (hitems w)).1
    have hrest (w : W) : anyHuge rest = false := (Bool.or_eq_false_iff.mp (hitems w)).2
    rw [Program.namesOf.eq_def]
    split
    · next hnil => cases hnil
    · next s rest' hcons =>
      cases hcons
      exact (ih hrest).map fun names hnames => congrArg (Document.str s :: ·) hnames
    · next hcons =>
      cases hcons
      exact h.blame _ fun w => by simp [FormatFault.isWritable, hd w]

theorem names (tag key : String) :
    Ends W (fun names => ∃ label, find? key entries = some (.list label (names.map .str)))
      (namesAt (fun f => Fault.ofFormat f (blamePlace c entries)) tag key entries) := by
  rw [namesAt]
  split
  · exact h.blame _ fun _ => rfl
  · next label items hkey =>
    have hitems : W → anyHuge items = false := h.part hkey
    refine Ends.imp (h.namesOf tag key hitems) fun names hnames => ?_
    subst hnames
    exact ⟨label, hkey⟩
  · exact h.blame _ fun _ => rfl

variable {label : Option Nat}

theorem literalNode (htag : find? "node" entries = some (.str "literal")) :
    Ends W (fun _ => IsNode (.mapping label entries)) (readNode c (.mapping label entries)) := by
  rw [readNode]
  simp only [htag]
  split
  · next hvalue =>
    refine .literalNode htag fun d hd => ?_
    cases hvalue.symm.trans hd
  · next s hvalue =>
    refine .literalNode htag fun d hd => ?_
    cases hvalue.symm.trans hd
    trivial
  · next l hvalue =>
    refine .literalNode htag fun d hd => ?_
    cases hvalue.symm.trans hd
    trivial
  · next d _ _ hvalue => exact h.blame _ fun w => by simp [FormatFault.isWritable, h.part hvalue w]

theorem stringNode (htag : find? "node" entries = some (.str "string")) :
    Ends W (fun _ => IsNode (.mapping label entries)) (readNode c (.mapping label entries)) := by
  rw [readNode]
  simp only [htag]
  exact (h.text "string" "value").bind fun s hs => .stringNode htag hs

theorem var (htag : find? "node" entries = some (.str "var")) :
    Ends W (fun _ => IsNode (.mapping label entries)) (readNode c (.mapping label entries)) := by
  rw [readNode]
  simp only [htag]
  exact (h.text "var" "name").bind fun s hs => .var htag hs

theorem assign (htag : find? "node" entries = some (.str "assign")) :
    Ends W (fun _ => IsNode (.mapping label entries)) (readNode c (.mapping label entries)) := by
  rw [readNode]
  simp only [htag]
  refine (h.text "assign" "name").bind fun name hname => ?_
  split
  · exact h.blame _ fun _ => rfl
  · next d hvalue =>
    exact (h.node hvalue).bind fun _ hd => .assign htag hname hvalue hd

theorem cond (htag : find? "node" entries = some (.str "if")) :
    Ends W (fun _ => IsNode (.mapping label entries)) (readNode c (.mapping label entries)) := by
  rw [readNode]
  simp only [htag]
  split
  · exact h.blame _ fun _ => rfl
  · next d htest =>
    refine (h.node htest).bind fun n hd => ?_
    split
    · exact h.blame _ fun _ => rfl
    · next inner items hthen =>
      refine (h.body hthen).bind fun body hitems => ?_
      split
      · next helse =>
        refine .cond htag htest hd hthen hitems fun e he => ?_
        cases helse.symm.trans he
      · next helse =>
        refine .cond htag htest hd hthen hitems fun e he => ?_
        cases helse.symm.trans he
        rfl
      · next inner' items' helse =>
        exact (h.body helse).bind fun _ hitems' =>
          .condElse htag htest hd hthen hitems helse hitems'
      · exact h.blame _ fun _ => rfl
    · exact h.blame _ fun _ => rfl

theorem loop (htag : find? "node" entries = some (.str "while")) :
    Ends W (fun _ => IsNode (.mapping label entries)) (readNode c (.mapping label entries)) := by
  rw [readNode]
  simp only [htag]
  split
  · exact h.blame _ fun _ => rfl
  · next d htest =>
    refine (h.node htest).bind fun n hd => ?_
    split
    · exact h.blame _ fun _ => rfl
    · next inner items hbody =>
      exact (h.body hbody).bind fun _ hitems => .loop htag htest hd hbody hitems
    · exact h.blame _ fun _ => rfl

theorem define (htag : find? "node" entries = some (.str "def")) :
    Ends W (fun _ => IsNode (.mapping label entries)) (readNode c (.mapping label entries)) := by
  rw [readNode]
  simp only [htag]
  refine (h.text "def" "name").bind fun name hname => ?_
  refine (h.names "def" "params").bind fun params hparams => ?_
  obtain ⟨inner', hparams⟩ := hparams
  split
  · exact h.blame _ fun _ => rfl
  · next inner items hbody =>
    exact (h.body hbody).bind fun _ hitems => .define htag hname hparams hbody hitems
  · exact h.blame _ fun _ => rfl

theorem call (htag : find? "node" entries = some (.str "call")) :
    Ends W (fun _ => IsNode (.mapping label entries)) (readNode c (.mapping label entries)) := by
  rw [readNode]
  simp only [htag]
  split
  · next hargs =>
    refine (h.text "call" "name").bind fun name hname => .callBare htag hname fun d hd => ?_
    cases hargs.symm.trans hd
  · next inner items hargs =>
    exact (h.text "call" "name").bind fun name hname =>
      (h.body hargs).bind fun _ hitems => .call htag hname hargs hitems
  · next d _ hargs =>
    split
    · exact h.blame _ fun _ => rfl
    · next htruthy =>
      refine (h.text "call" "name").bind fun name hname => .callBare htag hname fun e he => ?_
      cases hargs.symm.trans he
      exact eq_false_of_ne_true htruthy

/-- A mapping is read as its tag says, and blamed if there is no such tag. -/
theorem mapping (hlabel : W → (Document.mapping label entries).hasHugeInt = false) :
    Ends W (fun _ => IsNode (.mapping label entries)) (readNode c (.mapping label entries)) := by
  by_cases hliteral : find? "node" entries = some (.str "literal")
  · exact h.literalNode hliteral
  by_cases hstring : find? "node" entries = some (.str "string")
  · exact h.stringNode hstring
  by_cases hvar : find? "node" entries = some (.str "var")
  · exact h.var hvar
  by_cases hassign : find? "node" entries = some (.str "assign")
  · exact h.assign hassign
  by_cases hcond : find? "node" entries = some (.str "if")
  · exact h.cond hcond
  by_cases hloop : find? "node" entries = some (.str "while")
  · exact h.loop hloop
  by_cases hdefine : find? "node" entries = some (.str "def")
  · exact h.define hdefine
  by_cases hcall : find? "node" entries = some (.str "call")
  · exact h.call hcall
  rw [readNode]
  split
  case h_1 | h_2 => exact h.blame _ fun w => by simp [FormatFault.isWritable, hlabel w]
  case h_11 tag _ _ _ _ _ _ _ _ _ htag =>
    exact h.blame _ fun w => by simp [FormatFault.isWritable, h.part htag w]
  all_goals contradiction

end Parts

/-- The file of a node can be written if the file around it can. -/
theorem Context.hasHugeInt_placeOf {c : Context} {label : Option Nat}
    {entries : List (Document × Document)} (hfile : c.file.hasHugeInt = false)
    (hentries : (Document.mapping label entries).hasHugeInt = false) :
    (c.placeOf entries).file.hasHugeInt = false := by
  cases hkey : find? "file" entries with
  | some d =>
    simp only [placeOf, hkey, Option.getD_some]
    exact hasHugeInt_of_find? hentries hkey
  | none =>
    simp only [placeOf, hkey, Option.getD_none, inherited]
    split
    · exact hfile
    · rfl

/-- A mapping is blamed at a place that can be written, if the mapping itself can be. -/
theorem isWritable_blamePlace {c : Context} {label : Option Nat}
    {entries : List (Document × Document)} (hfile : c.file.hasHugeInt = false)
    (hentries : (Document.mapping label entries).hasHugeInt = false) :
    (blamePlace c entries).isWritable = true := by
  rw [blamePlace]
  split
  · rfl
  · next line hline =>
    split
    · rfl
    · have hown : (c.placeOf entries).line.hasHugeInt = false := by
        simp only [Context.placeOf, hline, Option.getD_some]
        exact hasHugeInt_of_find? hentries hline
      simp [Place.isWritable, hown, Context.hasHugeInt_placeOf hfile hentries]

/-- **What is read is a node, and what is not read is blamed.** The fault can be written where
everything can be. -/
theorem readNode_ends {W : Prop} (d : Document) (c : Context)
    (hfile : W → c.file.hasHugeInt = false) (hd : W → d.hasHugeInt = false) :
    Ends W (fun _ => d.IsNode) (readNode c d) := by
  match d, hd with
  | .literal l, _ =>
    rw [readNode]
    exact .literal l
  | .str s, _ =>
    rw [readNode]
    exact .str s
  | .mapping label entries, hd =>
    have hinner (w : W) : (c.placeOf entries).file.hasHugeInt = false :=
      Context.hasHugeInt_placeOf (hfile w) (hd w)
    have hparts : Parts W c entries :=
      { blame f hf := ⟨f, _, rfl, fun w => ⟨hf w, isWritable_blamePlace (hfile w) (hd w)⟩⟩
        part hkey w := hasHugeInt_of_find? (hd w) hkey
        node {_ d} hkey := by
          have hsize := sizeOf_find? hkey
          exact readNode_ends d (c.within (c.placeOf entries)) hinner fun w =>
            hasHugeInt_of_find? (hd w) hkey
        body {_ _ items} hkey := by
          have hsize := sizeOf_find? hkey
          refine readAll_ends fun d hmem => ?_
          have hitem := List.sizeOf_lt_of_mem hmem
          exact readNode_ends d (c.within (c.placeOf entries)) hinner fun w =>
            hasHugeInt_of_mem (hasHugeInt_of_find? (hd w) hkey) hmem }
    exact hparts.mapping hd
  | .date label day, _ | .moment label time, _ | .back label isList, _ =>
    simp only [readNode]
    exact ⟨_, _, rfl, fun _ => ⟨rfl, rfl⟩⟩
  | .list label items, hd =>
    simp only [readNode]
    exact ⟨_, _, rfl, fun w => ⟨by simp [FormatFault.isWritable, hd w], rfl⟩⟩
termination_by sizeOf d
decreasing_by
  all_goals
    simp at hsize ⊢
    omega

/-! ### Whole documents -/

/-- What a whole document comes to. -/
theorem ofDocument_ends {W : Prop} (file : String) {d : Document}
    (hd : W → d.hasHugeInt = false) :
    Ends W (fun _ => d.IsProgram) (ofDocument file d) := by
  cases d with
  | literal l =>
    cases l with
    | nil => exact .nil
    | bool | int | float => exact ⟨_, _, rfl, fun _ => ⟨rfl, rfl⟩⟩
  | list label items =>
    have hbody : Ends W (fun _ => ∀ d ∈ items, d.IsNode) (readAll (.ofFile file) items) :=
      readAll_ends fun d hmem => readNode_ends d _ (fun _ => rfl) fun w =>
        hasHugeInt_of_mem (hd w) hmem
    exact hbody.bind fun _ hitems => .list hitems
  | str | date | moment | mapping | back => exact ⟨_, _, rfl, fun _ => ⟨rfl, rfl⟩⟩

theorem ofDocument_of_isProgram (file : String) {d : Document} (h : d.IsProgram) :
    ∃ p, ofDocument file d = .ok p := by
  cases h with
  | nil => exact ⟨_, rfl⟩
  | list hitems =>
    obtain ⟨body, hbody⟩ := readAll_of_forall fun d hd => readNode_of_isNode (hitems d hd) _
    exact ⟨⟨file, body⟩, by rw [ofDocument, hbody]; rfl⟩

/-- **The reader accepts exactly the programs.** A document whose integers can be written is read if
and only if it is nil or a list of nodes; and if it is not read, then the fault is one of its
format. -/
theorem ofDocument_accepts (file : String) (d : Document) (hd : d.hasHugeInt = false) :
    ((∃ p, ofDocument file d = .ok p) ↔ d.IsProgram) ∧
      (¬ d.IsProgram →
        ∃ problem place, ofDocument file d = .error (.raised (.format problem) place)) := by
  have hends := ofDocument_ends file fun _ : True => hd
  cases hread : ofDocument file d with
  | ok p =>
    rw [hread] at hends
    exact ⟨⟨fun _ => hends, fun _ => ⟨p, rfl⟩⟩, fun hnot => (hnot hends).elim⟩
  | error fault =>
    rw [hread] at hends
    obtain ⟨problem, place, rfl, hwritable⟩ := hends
    obtain ⟨hproblem, hplace⟩ := hwritable trivial
    have hnot : ¬ d.IsProgram := fun hprogram => by
      obtain ⟨p, hp⟩ := ofDocument_of_isProgram file hprogram
      cases hread.symm.trans hp
    refine ⟨⟨fun ⟨_, hp⟩ => (nomatch hp), fun h => (hnot h).elim⟩, fun _ => ⟨problem, place, ?_⟩⟩
    rw [Fault.ofFormat_of_isWritable hproblem hplace]

/-- A condition whose second body holds the given document. -/
def otherwise (d : Document) : Document :=
  .list none [mappingOf [("node", .str "if"), ("line", .date none ⟨2001, 1, 1⟩),
    ("cond", .bool true), ("then", .list none []), ("else", .list none [d])]]

/-- A call whose arguments are an empty mapping. -/
def emptyCall : Document :=
  mappingOf [("node", .str "call"), ("name", .str "f"), ("args", mappingOf [])]

/-- An empty mapping may stand for the arguments of a call, and a date may be a line but no node. -/
theorem ofDocument_accepts_of_otherwise :
    ((otherwise emptyCall).IsProgram ∧ ∃ p, ofDocument "main" (otherwise emptyCall) = .ok p) ∧
      ¬ (otherwise (.date none ⟨2001, 1, 1⟩)).IsProgram ∧
        ∃ problem place, ofDocument "main" (otherwise (.date none ⟨2001, 1, 1⟩)) =
          .error (.raised (.format problem) place) := by
  have hcall : emptyCall.IsNode := .callBare rfl rfl fun d hd => by cases hd; rfl
  have hyes : (otherwise emptyCall).IsProgram := by
    refine .list (List.forall_mem_singleton.mpr ?_)
    exact .condElse rfl rfl (.literal _) rfl (by simp) rfl (List.forall_mem_singleton.mpr hcall)
  have hno : ¬ (otherwise (.date none ⟨2001, 1, 1⟩)).IsProgram := by
    rintro (_ | hitems)
    have hkind : ∀ {s : String}, some (.str "if") = some (Document.str s) → s = "if" := by
      rintro s ⟨⟩
      rfl
    cases List.forall_mem_singleton.mp hitems
    case cond helse => cases helse _ rfl
    case condElse hitems' _ _ _ helse =>
      cases helse
      cases List.forall_mem_singleton.mp hitems'
    -- every other kind of node has another tag
    all_goals exact absurd (hkind ‹_›) (by decide)
  exact ⟨⟨hyes, (ofDocument_accepts "main" _ rfl).1.mpr hyes⟩, hno,
    (ofDocument_accepts "main" _ rfl).2 hno⟩

end Program

end Treewalk
