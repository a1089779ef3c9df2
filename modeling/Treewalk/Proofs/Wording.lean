import Mathlib.Data.Set.Function
import Treewalk.Proofs.Location

/-!
# Two wordings of a program

The names in a program are of two sorts. Functions share one table, so the name of a function means
the same everywhere. A variable lives in one frame, so its name is known to the body of one
definition only, and inside of that body it could be any other name. This file says when two
programs differ in such choices alone, so that one is a *variant* of the other (`Treewalk.Variant`):

* a parameter of a definition may have another name, if the body names it so throughout
  (`Treewalk.Renaming`);
* a call without arguments may be written as a bare name.

Both can go wrong, if the new name of a parameter is in use already, or if the bare name is a
variable. What keeps the two apart is a `Treewalk.Wording`: a set of *spare* names, which no
variable of the first program has, so that parameters may be renamed to them, and a set of names
that are never bound, so that they may stand *bare*.

* **`Treewalk.Variant.of_rewritten`**: if some nodes of a tree are replaced by variants
  (`Treewalk.Node.Rewritten`), the whole becomes a variant.
-/

namespace Treewalk

/-! ### The names of variables -/

namespace Node

/-- The names of variables that a node binds, or has its function bind. -/
def binds : Node → List String
  | .assign _ name _ => [name]
  | .define _ _ params _ => params
  | _ => []

/-- The names that a node reads as a variable, if there is one. -/
def reads : Node → List String
  | .var _ name => [name]
  | _ => []

mutual

/-- **A node with other names for the variables of its frame.** The body of a definition has a frame
of its own, and the name of a call is no variable. -/
def renamed (ρ : String → String) : Node → Node
  | .literal p v => .literal p v
  | .string p s => .string p s
  | .var p name => .var p (ρ name)
  | .assign p name value => .assign p (ρ name) (renamed ρ value)
  | .cond p test thenBody elseBody =>
    .cond p (renamed ρ test) (renamedAll ρ thenBody)
      (match elseBody with
      | none => none
      | some body => some (renamedAll ρ body))
  | .loop p test body => .loop p (renamed ρ test) (renamedAll ρ body)
  | .define p name params body => .define p name params body
  | .call p name args => .call p name (renamedAll ρ args)

/-- The nodes of a body with other names for variables. -/
def renamedAll (ρ : String → String) : List Node → List Node
  | [] => []
  | n :: rest => renamed ρ n :: renamedAll ρ rest

end

theorem renamedAll_eq_map (ρ : String → String) (ns : List Node) :
    renamedAll ρ ns = ns.map (renamed ρ) := by
  induction ns with
  | nil => rfl
  | cons n rest ih => rw [renamedAll, ih, List.map_cons]

/-- With the names that it has, a node is the same. -/
theorem renamed_id (n : Node) : n.renamed id = n := by
  induction n using Node.induction with
  | h n ih =>
    have hbody {ns : List Node} (h : ∀ m ∈ ns, m ∈ n.children) : renamedAll id ns = ns := by
      rw [renamedAll_eq_map]
      exact (List.map_congr_left (g := id) fun m hm => ih m (h m hm)).trans (List.map_id _)
    cases n with
    | literal | string | var | define => rfl
    | assign place name value => rw [renamed, ih value (by simp [children, parts]), id]
    | cond place test thenBody elseBody =>
      have htest := ih test (by simp [children, parts])
      have hthen := @hbody thenBody (by simp +contextual [children, parts])
      cases elseBody with
      | none => rw [renamed, htest, hthen]
      | some body =>
        have helse := @hbody body (by simp +contextual [children, parts])
        rw [renamed, htest, hthen, helse]
    | loop place test body =>
      rw [renamed, ih test (by simp [children, parts]),
        @hbody body (by simp +contextual [children, parts])]
    | call place name args => rw [renamed, @hbody args fun _ hm => hm]

end Node

/-! ### Wordings -/

/-- **What two programs may differ in**: parameters may be renamed to the spare names, and calls of
bare names may be written without parentheses. -/
structure Wording where
  spare : Set String
  bare : Set String
  not_spare : ∀ name ∈ bare, name ∉ spare

namespace Wording

variable (K : Wording)

/-- A name that may be bound in the first program. -/
def Bindable (name : String) : Prop := name ∉ K.spare ∧ name ∉ K.bare

/-- A node of the first program binds and reads what it may. -/
structure Fits (n : Node) : Prop where
  binds : ∀ name ∈ n.binds, K.Bindable name
  reads : ∀ name ∈ n.reads, name ∉ K.spare

end Wording

/-- **Other names for some variables**: different variables keep different names, and only the given
ones are changed. -/
structure Renaming (K : Wording) (names : List String) (ρ : String → String) : Prop where
  injOn : Set.InjOn ρ K.spareᶜ
  moved {name : String} : ρ name ≠ name → name ∈ names

namespace Renaming

variable {K : Wording} {names names' : List String} {ρ : String → String}

theorem same (K : Wording) (names : List String) : Renaming K names id :=
  ⟨Set.injOn_id _, fun h => absurd rfl h⟩

theorem mono (h : Renaming K names ρ) (hnames : names ⊆ names') : Renaming K names' ρ :=
  ⟨h.injOn, fun hmoved => hnames (h.moved hmoved)⟩

/-- A name that stays bare is not changed, if all that are changed may be bound. -/
theorem eq_of_bare (h : Renaming K names ρ) (hnames : ∀ name ∈ names, K.Bindable name)
    {name : String} (hbare : name ∈ K.bare) : ρ name = name := by
  by_contra hmoved
  exact (hnames name (h.moved hmoved)).2 hbare

/-- One variable gets a spare name. -/
theorem update {p q : String} (hp : p ∈ names) (hq : q ∈ K.spare) :
    Renaming K names (Function.update id p q) where
  injOn := by
    intro m hm n hn heq
    have hne {k : String} (hk : k ∈ K.spareᶜ) : k ≠ q := fun h => hk (h ▸ hq)
    by_cases hmp : m = p <;> by_cases hnp : n = p
    · rw [hmp, hnp]
    · subst hmp
      simp [Function.update_of_ne hnp] at heq
      exact absurd heq.symm (hne hn)
    · subst hnp
      simp [Function.update_of_ne hmp] at heq
      exact absurd heq (hne hm)
    · simpa [Function.update_of_ne hmp, Function.update_of_ne hnp] using heq
  moved {name} hmoved := by
    by_contra hname
    have hne : name ≠ p := fun h => hname (h ▸ hp)
    exact hmoved (Function.update_of_ne hne _ _)

end Renaming

/-! ### Variants -/

mutual

/-- **A node is a variant of another**, where the variables of the frame have other names. -/
inductive Variant (K : Wording) : (String → String) → Node → Node → Prop
  /-- A literal stays. -/
  | literal {ρ : String → String} {place : Place} {value : Literal} :
      Variant K ρ (.literal place value) (.literal place value)
  /-- So does a text. -/
  | string {ρ : String → String} {place : Place} {text : String} :
      Variant K ρ (.string place text) (.string place text)
  /-- A variable is read under its other name. -/
  | var {ρ : String → String} {place : Place} {name : String} : name ∉ K.spare →
      Variant K ρ (.var place name) (.var place (ρ name))
  /-- A call without arguments is written as a bare name. -/
  | bare {ρ : String → String} {place : Place} {name : String} : name ∈ K.bare →
      Variant K ρ (.call place name []) (.var place name)
  /-- A variable is bound under its other name. -/
  | assign {ρ : String → String} {place : Place} {name : String} {value value' : Node} :
      K.Bindable name → Variant K ρ value value' →
      Variant K ρ (.assign place name value) (.assign place (ρ name) value')
  /-- The branches of a conditional are variants. A branch that is missing is an empty one. -/
  | cond {ρ : String → String} {place : Place} {test test' : Node} {thenBody thenBody' : List Node}
      {elseBody elseBody' : Option (List Node)} : Variant K ρ test test' →
      Variants K ρ thenBody thenBody' → Variants K ρ (elseBody.getD []) (elseBody'.getD []) →
      Variant K ρ (.cond place test thenBody elseBody) (.cond place test' thenBody' elseBody')
  /-- So are the test and the body of a loop. -/
  | loop {ρ : String → String} {place : Place} {test test' : Node} {body body' : List Node} :
      Variant K ρ test test' → Variants K ρ body body' →
      Variant K ρ (.loop place test body) (.loop place test' body')
  /-- A definition has a frame of its own, and may name its parameters in its own way. -/
  | define {ρ σ : String → String} {place : Place} {name : String} {params params' : List String}
      {body body' : List Node} : Renaming K params σ → (∀ p ∈ params, K.Bindable p) →
      params' = params.map σ → Variants K σ body body' →
      Variant K ρ (.define place name params body) (.define place name params' body')
  /-- The arguments of a call are variants. -/
  | call {ρ : String → String} {place : Place} {name : String} {args args' : List Node} :
      Variants K ρ args args' → Variant K ρ (.call place name args) (.call place name args')

/-- **Nodes are variants of others**, one by one. -/
inductive Variants (K : Wording) : (String → String) → List Node → List Node → Prop
  /-- No nodes. -/
  | nil {ρ : String → String} : Variants K ρ [] []
  /-- A node before others. -/
  | cons {ρ : String → String} {n n' : Node} {rest rest' : List Node} : Variant K ρ n n' →
      Variants K ρ rest rest' → Variants K ρ (n :: rest) (n' :: rest')

end

/-- **Some nodes are replaced**, at any depth: a replaced node is to the new one as `step` says. -/
inductive Node.Rewritten (step : Node → Node → Prop) : Node → Node → Prop
  /-- Nothing is replaced. -/
  | same (n : Node) : Rewritten step n n
  /-- The node is replaced. -/
  | replaced {n n' : Node} : step n n' → Rewritten step n n'
  /-- Below an assignment. -/
  | assign {place : Place} {name : String} {value value' : Node} : Rewritten step value value' →
      Rewritten step (.assign place name value) (.assign place name value')
  /-- Below a conditional. -/
  | cond {place : Place} {test test' : Node} {thenBody thenBody' : List Node}
      {elseBody elseBody' : Option (List Node)} : Rewritten step test test' →
      List.Forall₂ (Rewritten step) thenBody thenBody' →
      Option.Rel (List.Forall₂ (Rewritten step)) elseBody elseBody' →
      Rewritten step (.cond place test thenBody elseBody) (.cond place test' thenBody' elseBody')
  /-- Below a loop. -/
  | loop {place : Place} {test test' : Node} {body body' : List Node} : Rewritten step test test' →
      List.Forall₂ (Rewritten step) body body' →
      Rewritten step (.loop place test body) (.loop place test' body')
  /-- Below a definition. -/
  | define {place : Place} {name : String} {params : List String} {body body' : List Node} :
      List.Forall₂ (Rewritten step) body body' →
      Rewritten step (.define place name params body) (.define place name params body')
  /-- Below a call. -/
  | call {place : Place} {name : String} {args args' : List Node} :
      List.Forall₂ (Rewritten step) args args' →
      Rewritten step (.call place name args) (.call place name args')

theorem Variant.place_eq {K : Wording} {ρ : String → String} {n n' : Node} (h : Variant K ρ n n') :
    n'.place = n.place := by
  cases h <;> rfl

section Trees

variable {K : Wording} {tree : List Node} {ρ : String → String}

theorem Variants.of_forall₂ {R : Node → Node → Prop} {ns ns' : List Node}
    (h : List.Forall₂ R ns ns') (hR : ∀ n ∈ ns, ∀ n', R n n' → Variant K ρ n n') :
    Variants K ρ ns ns' := by
  induction h with
  | nil => exact .nil
  | cons hhead _ ih =>
    exact .cons (hR _ (by simp) _ hhead) (ih fun n hn => hR n (by simp [hn]))

theorem Variants.of_renamed {ns : List Node} (h : ∀ n ∈ ns, Variant K ρ n (n.renamed ρ)) :
    Variants K ρ ns (Node.renamedAll ρ ns) := by
  rw [Node.renamedAll_eq_map]
  induction ns with
  | nil => exact .nil
  | cons n rest ih => exact .cons (h n (by simp)) (ih fun m hm => h m (by simp [hm]))

/-- **A node with other names for its variables is a variant.** -/
theorem Variant.of_renamed (hfits : ∀ n : Node, n.Occurs tree → K.Fits n) (n : Node)
    (hn : n.Occurs tree) : ∀ ρ : String → String, Variant K ρ n (n.renamed ρ) := by
  induction n using Node.induction with
  | h n ih =>
    intro ρ
    have hchild (σ : String → String) {m : Node} (hm : m ∈ n.children) :
        Variant K σ m (m.renamed σ) := ih m hm (.child hn hm) σ
    have hbody (σ : String → String) {ns : List Node} (hns : ∀ m ∈ ns, m ∈ n.children) :
        Variants K σ ns (Node.renamedAll σ ns) := .of_renamed fun m hm => hchild σ (hns m hm)
    obtain ⟨hbinds, hreads⟩ := hfits n hn
    cases n with
    | literal => exact .literal
    | string => exact .string
    | var place name => exact .var (hreads name (by simp [Node.reads]))
    | assign place name value =>
      exact .assign (hbinds name (by simp [Node.binds]))
        (hchild ρ (by simp [Node.children, Node.parts]))
    | cond place test thenBody elseBody =>
      have htest := hchild ρ (m := test) (by simp [Node.children, Node.parts])
      have hthen := @hbody ρ thenBody (by simp +contextual [Node.children, Node.parts])
      cases elseBody with
      | none => exact .cond htest hthen .nil
      | some body =>
        have helse := @hbody ρ body (by simp +contextual [Node.children, Node.parts])
        exact .cond htest hthen helse
    | loop place test body =>
      exact .loop (hchild ρ (by simp [Node.children, Node.parts]))
        (hbody ρ (by simp +contextual [Node.children, Node.parts]))
    | define place name params body =>
      have hself : Variants K id body body := by
        have h := @hbody id body fun _ hm => hm
        rwa [Node.renamedAll_eq_map, funext Node.renamed_id, List.map_id'] at h
      exact .define (.same K params) hbinds (List.map_id params).symm hself
    | call place name args => exact .call (hbody ρ fun _ hm => hm)

/-- A node is a variant of itself. -/
theorem Variant.refl (hfits : ∀ n : Node, n.Occurs tree → K.Fits n) {n : Node}
    (hn : n.Occurs tree) : Variant K id n n := by
  have h := Variant.of_renamed hfits n hn id
  rwa [Node.renamed_id] at h

/-- **What is replaced by variants becomes a variant.** -/
theorem Variant.of_rewritten {step : Node → Node → Prop}
    (hfits : ∀ n : Node, n.Occurs tree → K.Fits n)
    (hstep : ∀ n n' : Node, n.Occurs tree → step n n' → Variant K id n n') (n : Node)
    (hn : n.Occurs tree) : ∀ n' : Node, n.Rewritten step n' → Variant K id n n' := by
  induction n using Node.induction with
  | h n ih =>
    intro n' h
    have hchild {m m' : Node} (hm : m ∈ n.children) (h : m.Rewritten step m') :
        Variant K id m m' := ih m hm (.child hn hm) m' h
    have hbody {ns ns' : List Node} (hns : ∀ m ∈ ns, m ∈ n.children)
        (h : List.Forall₂ (Node.Rewritten step) ns ns') : Variants K id ns ns' :=
      .of_forall₂ h fun m hm _ => hchild (hns m hm)
    have hbinds := (hfits n hn).binds
    cases h with
    | same => exact .refl hfits hn
    | replaced h => exact hstep n n' hn h
    | assign h =>
      exact .assign (hbinds _ (by simp [Node.binds]))
        (hchild (by simp [Node.children, Node.parts]) h)
    | cond htest hthen helse =>
      refine .cond (hchild (by simp [Node.children, Node.parts]) htest)
        (hbody (by simp +contextual [Node.children, Node.parts]) hthen) ?_
      cases helse with
      | none => exact .nil
      | some h => exact hbody (by simp +contextual [Node.children, Node.parts]) h
    | loop htest h =>
      exact .loop (hchild (by simp [Node.children, Node.parts]) htest)
        (hbody (by simp +contextual [Node.children, Node.parts]) h)
    | define h =>
      exact .define (.same K _) hbinds (List.map_id _).symm (hbody (fun _ hm => hm) h)
    | call h => exact .call (hbody (fun _ hm => hm) h)

/-- **A tree in which nodes are replaced by variants** is a list of variants. -/
theorem Variants.of_rewritten {step : Node → Node → Prop}
    (hfits : ∀ n : Node, n.Occurs tree → K.Fits n)
    (hstep : ∀ n n' : Node, n.Occurs tree → step n n' → Variant K id n n') {tree' : List Node}
    (h : List.Forall₂ (Node.Rewritten step) tree tree') : Variants K id tree tree' :=
  .of_forall₂ h fun n hn n' => Variant.of_rewritten hfits hstep n (.top hn) n'

end Trees

end Treewalk
