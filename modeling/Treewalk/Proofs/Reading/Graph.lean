import Treewalk.Proofs.Reading.Parse

/-!
# What reading YAML can fail with

The nodes of a text come from its events: a scalar has the text of an event, and its tag is what a
plain text looks like, or one that the text names. Merging mappings changes what is in a mapping and
leaves the scalars as they are. So what fails when a scalar is made can be told from the events
(`Treewalk.Yaml.Misread`).

* **`Treewalk.Yaml.read_mishap`**: what a reading fails with beyond a problem is an escape of the
  text that stands for no character, or a scalar that is not what it looks like, or not what it is
  said to be.
-/

namespace Treewalk.Yaml

open Std.Do

set_option mvcgen.warning false

/-! ### What the events say -/

/-- What is written in front of the node that an event begins. -/
def EventKind.decoration? : EventKind → Option Decoration
  | .scalar d _ _ | .sequenceStart d | .mappingStart d => some d
  | _ => none

/-- A tag that stands in front of a node. -/
def Tag.IsNamed (events : List Event) (tag : Tag) : Prop :=
  ∃ e ∈ events, ∃ d name, e.kind.decoration? = some d ∧ d.tag = some name ∧ tag = .ofName name

/-- A text that is a scalar; a plain one may be taken for something else. -/
def IsWritten (events : List Event) (text : String) (plain : Bool) : Prop :=
  ∃ e ∈ events, ∃ d, e.kind = .scalar d text plain

/-- **A scalar that cannot be read**: a plain one that is not what it looks like, or any that is not
what its tag says. -/
inductive Misread (events : List Event) (m : Mishap) : Prop
  | plain {text : String} {label line : Nat} : IsWritten events text true →
      Scalar.construct label line (.ofPlain text) text = .error (.mishap m) → Misread events m
  | tagged {tag : Tag} {text : String} {label line : Nat} : tag.IsNamed events →
      (text = "" ∨ ∃ plain, IsWritten events text plain) →
      Scalar.construct label line tag text = .error (.mishap m) → Misread events m
  /-- A mapping is said to be a timestamp. -/
  | timestamp : Tag.timestamp.IsNamed events → m.kind = .type → Misread events m

/-- A node that the events give. -/
inductive Vertex.IsFrom (events : List Event) : Vertex → Prop
  | scalar {text : String} {plain : Bool} {tag : Tag} {line : Nat} : IsWritten events text plain →
      (tag = .str ∨ plain = true ∧ tag = .ofPlain text ∨ tag.IsNamed events) →
      IsFrom events ⟨tag, line, .scalar text⟩
  | collection {tag : Tag} {line : Nat} {content : Content} : content.sort ≠ .scalar →
      (tag = .str ∨ tag = .sequence ∨ tag = .mapping ∨ tag.IsNamed events) →
      IsFrom events ⟨tag, line, content⟩

/-- What is in a collection does not matter. -/
theorem Vertex.IsFrom.refill {events : List Event} {v : Vertex} {content : Content}
    (h : v.IsFrom events) (hv : v.content.sort ≠ .scalar) (hcontent : content.sort ≠ .scalar) :
    { v with content := content }.IsFrom events := by
  cases h with
  | scalar => exact (hv rfl).elim
  | collection _ htag => exact .collection hcontent htag

namespace Graph

theorem forall_mem_modify {g : Graph} {n : Nat} {f : Vertex → Vertex} {p : Vertex → Prop}
    (h : ∀ v ∈ g, p v) (hf : ∀ v, g[n]? = some v → p v → p (f v)) : ∀ v ∈ g.modify n f, p v := by
  intro v hv
  obtain ⟨k, hk⟩ := Array.mem_iff_getElem?.mp hv
  rw [Array.getElem?_modify] at hk
  split at hk
  · next hnumber =>
    subst hnumber
    obtain ⟨w, hw, rfl⟩ := Option.map_eq_some_iff.mp hk
    exact hf w hw (h w (Array.mem_of_getElem? hw))
  · exact h v (Array.mem_of_getElem? hk)

/-! ### Building the graph -/

namespace Builder

variable {events : List Event}

/-- A node has the usual tag, or one that stands in front of it. -/
theorem collectionTag_isNamed {e : Event} {d : Decoration} (usual : Tag) (he : e ∈ events)
    (hd : e.kind.decoration? = some d) :
    collectionTag d usual = usual ∨ (collectionTag d usual).IsNamed events := by
  unfold collectionTag
  split
  · exact .inl rfl
  · exact .inl rfl
  · next name _ hname => exact .inr ⟨e, he, d, name, hd, hname, rfl⟩

theorem scalar_isFrom {e : Event} {d : Decoration} {text : String} {plain : Bool} (line : Nat)
    (he : e ∈ events) (hkind : e.kind = .scalar d text plain) :
    Vertex.IsFrom events ⟨scalarTag d text plain, line, .scalar text⟩ := by
  refine .scalar ⟨e, he, d, hkind⟩ ?_
  have hd : e.kind.decoration? = some d := by rw [hkind]; rfl
  rcases collectionTag_isNamed (if plain then .ofPlain text else .str) he hd with htag | htag
  · rw [scalarTag, ← collectionTag, htag]
    cases plain <;> simp
  · exact .inr (.inr htag)

theorem collection_isFrom {e : Event} {d : Decoration} {usual : Tag} {content : Content}
    (line : Nat) (hsort : content.sort ≠ .scalar) (husual : usual = .sequence ∨ usual = .mapping)
    (he : e ∈ events) (hd : e.kind.decoration? = some d) :
    Vertex.IsFrom events ⟨collectionTag d usual, line, content⟩ := by
  refine .collection hsort ?_
  rcases collectionTag_isNamed usual he hd with htag | htag
  · rw [htag]
    exact .inr (husual.imp_right .inl)
  · exact .inr (.inr (.inr htag))

/-- **What building keeps**: the nodes are from the events, and what is open is no scalar. -/
structure IsSound (events : List Event) (b : Builder) : Prop where
  isFrom : ∀ v ∈ b.nodes, v.IsFrom events
  opened : ∀ o ∈ b.opened, ∃ v, b.nodes[o.number]? = some v ∧ v.content.sort ≠ .scalar

namespace IsSound

variable {b : Builder} (h : b.IsSound events)
include h

theorem attach (number : Nat) : (b.attach number).IsSound events := by
  unfold Builder.attach
  split
  · exact ⟨h.isFrom, h.opened⟩
  · next o rest heq =>
    refine ⟨h.isFrom, fun o' ho' => ?_⟩
    rcases List.mem_cons.mp ho' with rfl | hrest
    · exact h.opened o (by simp [heq])
    · exact h.opened o' (by simp [heq, hrest])

theorem add {v : Vertex} (hv : v.IsFrom events) (anchor : Option String) :
    (b.add v anchor).IsSound events := by
  constructor
  · intro w hw
    rcases Array.mem_push.mp hw with hw | rfl
    · exact h.isFrom w hw
    · exact hv
  · intro o ho
    obtain ⟨w, hw, hsort⟩ := h.opened o ho
    refine ⟨w, ?_, hsort⟩
    have hlt : o.number < b.nodes.size := (Array.getElem?_eq_some_iff.mp hw).1
    simp only [Builder.add, Array.getElem?_push]
    rw [if_neg (by omega), hw]

/-- A collection that begins is open, at the node just added. -/
theorem opens {v : Vertex} (hv : v.IsFrom events) (hsort : v.content.sort ≠ .scalar)
    (anchor : Option String) (isMapping : Bool) :
    let b' := b.add v anchor
    { b' with opened := ⟨b.nodes.size, isMapping, []⟩ :: b.opened }.IsSound events := by
  have hadd := h.add hv anchor
  refine ⟨hadd.isFrom, fun o ho => ?_⟩
  rcases List.mem_cons.mp ho with rfl | ho
  · exact ⟨v, by simp [Builder.add], hsort⟩
  · exact hadd.opened o ho

theorem close : b.close.IsSound events := by
  unfold Builder.close
  split
  · exact h
  next o rest heq =>
  obtain ⟨v, hv, hsort⟩ := h.opened o (by simp [heq])
  refine attach ⟨?_, fun o' ho' => ?_⟩ _
  · dsimp only
    refine forall_mem_modify h.isFrom fun w hw hfrom => ?_
    cases hv.symm.trans hw
    refine hfrom.refill hsort ?_
    split <;> simp [Content.sort]
  · obtain ⟨w, hw, hkept⟩ := h.opened o' (by simp [heq, ho'])
    rw [Array.getElem?_modify, hw]
    split
    · refine ⟨_, rfl, ?_⟩
      dsimp only
      split <;> simp [Content.sort]
    · exact ⟨w, rfl, hkept⟩

omit h in
/-- A taken anchor is a problem. -/
theorem checkAnchor_ends (b : Builder) (d : Decoration) (line : Nat) :
    Ends (fun _ => True) (fun _ => False) (b.checkAnchor d line) := by
  unfold checkAnchor
  split
  · trivial
  · split <;> trivial

/-- A collection begins, unless its anchor is taken. -/
theorem begins {e : Event} {d : Decoration} {usual : Tag} {content : Content}
    (hsort : content.sort ≠ .scalar) (husual : usual = .sequence ∨ usual = .mapping)
    (he : e ∈ events) (hd : e.kind.decoration? = some d) (isMapping : Bool) :
    Ends (·.IsSound events) (fun _ => False) (do
      b.checkAnchor d e.line
      let b' := b.add ⟨collectionTag d usual, e.line, content⟩ d.anchor
      return { b' with opened := ⟨b.nodes.size, isMapping, []⟩ :: b.opened }) :=
  (checkAnchor_ends b d e.line).bind fun _ _ =>
    h.opens (collection_isFrom e.line hsort husual he hd) hsort d.anchor isMapping

/-- **A step of building** keeps it, and has no complaint but problems. -/
theorem step {e : Event} (he : e ∈ events) :
    Ends (·.IsSound events) (fun _ => False) (b.step e) := by
  unfold Builder.step
  split
  case h_1 name hkind =>
    split
    · exact h.attach _
    · trivial
  case h_2 d text plain hkind =>
    refine (checkAnchor_ends b d e.line).bind fun _ _ => ?_
    exact (h.add (scalar_isFrom e.line he hkind) d.anchor).attach _
  case h_3 d hkind =>
    exact h.begins (by simp [Content.sort]) (.inl rfl) he (by rw [hkind]; rfl) false
  case h_4 d hkind =>
    exact h.begins (by simp [Content.sort]) (.inr rfl) he (by rw [hkind]; rfl) true
  case h_5 | h_6 => exact h.close
  case h_7 | h_8 | h_9 => exact h

end IsSound

end Builder

/-- **Every run of building** keeps it, and ends with the complaint behind the events if not with a
problem. -/
theorem build_ends {events : List Event} {complaint : Option Refusal} {started : Bool}
    {b : Builder} {es : List Event} (h : b.IsSound events) (hes : ∀ e ∈ es, e ∈ events) :
    Ends (·.IsSound events) (fun m => complaint = some (.mishap m))
      (build complaint started b es) := by
  induction es generalizing started b with
  | nil =>
    rw [build]
    cases complaint with
    | none => exact h
    | some e => cases e <;> simp [Ends, Refusal.Only]
  | cons e rest ih =>
    have hrest : ∀ e ∈ rest, e ∈ events := fun e he => hes e (by simp [he])
    have hstep := h.step (hes e (by simp))
    rw [build.eq_def]
    dsimp only
    split
    · trivial
    · exact ih h hrest
    · exact hstep.of_problems.bind fun b' hb' => ih hb' hrest

/-- The number of a collection. -/
def IsCollection (g : Graph) (number : Nat) : Prop :=
  ∃ v, g[number]? = some v ∧ v.content.sort ≠ .scalar

/-- **What merging keeps**: the nodes are from the events, and the collections have the same
numbers. -/
structure IsSound (events : List Event) (collections : Nat → Prop) (g : Graph) : Prop where
  isFrom : ∀ v ∈ g, v.IsFrom events
  isCollection : ∀ number, g.IsCollection number ↔ collections number

variable {events : List Event} {collections : Nat → Prop}

/-- A change of the graph keeps that, and has no complaint but problems. -/
abbrev Changes {α : Type} (events : List Event) (collections : Nat → Prop) (x : Change α) : Prop :=
  Keeps (IsSound events collections) (fun _ => False) x

namespace IsSound

variable {g : Graph} (h : g.IsSound events collections)
include h

/-- A node may change, but not from a scalar to a collection or back. -/
theorem modify {n : Nat} {f : Vertex → Vertex}
    (hfrom : ∀ v, g[n]? = some v → v.IsFrom events → (f v).IsFrom events)
    (hsort : ∀ v, g[n]? = some v → ((f v).content.sort ≠ .scalar ↔ v.content.sort ≠ .scalar)) :
    IsSound events collections (g.modify n f) := by
  refine ⟨forall_mem_modify h.isFrom hfrom, fun number => ?_⟩
  rw [← h.isCollection number, IsCollection, Array.getElem?_modify]
  split
  · next hnumber =>
    subst hnumber
    cases hv : g[n]? with
    | none => simp [IsCollection, hv]
    | some v => simpa [IsCollection, hv] using hsort v hv
  · rfl

/-- The entries of a collection may change. -/
theorem setEntries {n : Nat} (hn : collections n) (es : List (Nat × Nat)) :
    IsSound events collections (g.modify n fun v => { v with content := .mapping es }) := by
  have hsort (v : Vertex) (hv : g[n]? = some v) : v.content.sort ≠ .scalar := by
    obtain ⟨w, hw, hsort⟩ := (h.isCollection n).mpr hn
    cases hv.symm.trans hw
    exact hsort
  refine h.modify (fun v hv hfrom => hfrom.refill (hsort v hv) ?_) fun v hv => ?_
  · simp [Content.sort]
  · exact iff_of_true (by simp [Content.sort]) (hsort v hv)

/-- A tag may become that of a text. -/
theorem setTag (n : Nat) :
    IsSound events collections (g.modify n fun v => { v with tag := .str }) := by
  refine h.modify (fun v _ hfrom => ?_) fun v _ => Iff.rfl
  cases hfrom with
  | scalar htext => exact .scalar htext (.inl rfl)
  | collection hsort => exact .collection hsort (.inl rfl)

end IsSound

/-- A node that holds others is a collection. -/
@[spec]
theorem vertex_spec (n : Nat) :
    ⦃fun g => ⌜IsSound events collections g⌝⦄ vertex n
      ⦃post⟨fun v g => ⌜IsSound events collections g ∧
        (v.content.sort ≠ .scalar → collections n)⌝, fun e => ⌜e.Only fun _ => False⌝⟩⦄ := by
  mvcgen [vertex]
  next g h =>
  refine ⟨h, fun hsort => (h.isCollection n).mp ?_⟩
  cases hv : g[n]? with
  | none => simp [hv, Content.sort] at hsort
  | some v => exact ⟨v, hv, by simpa [hv] using hsort⟩

@[spec]
theorem entriesOf_changes (n : Nat) : Changes events collections (entriesOf n) := by
  mvcgen [entriesOf]
  all_goals exact And.left ‹_›

@[spec]
theorem setEntries_changes {n : Nat} (hn : collections n) (es : List (Nat × Nat)) :
    Changes events collections (setEntries n es) := by
  mvcgen [setEntries]
  exact IsSound.setEntries ‹_› hn es

/-- Merging at one depth. -/
structure Merges (events : List Event) (collections : Nat → Prop) (fuel : Nat) : Prop where
  flattenFrom : ∀ number position merged, collections number →
    Changes events collections (flattenFrom fuel number position merged)
  mergedEntries : ∀ number, Changes events collections (mergedEntries fuel number)
  itemEntries : ∀ items, Changes events collections (itemEntries fuel items)

theorem merges (fuel : Nat) : Merges events collections fuel := by
  induction fuel with
  | zero =>
    constructor
    · intro number position merged hn
      mvcgen [Graph.flattenFrom]
    · intro number
      mvcgen [Graph.mergedEntries]
    · intro items
      mvcgen [Graph.itemEntries]
  | succ fuel ih =>
    have hflatten := ih.flattenFrom
    have hmerged := ih.mergedEntries
    have hitems := ih.itemEntries
    constructor
    · intro number position merged hn
      mvcgen [Graph.flattenFrom, hflatten, hmerged]
      all_goals grind [IsSound.setTag]
    · intro number
      mvcgen [Graph.mergedEntries, hflatten, hitems]
      all_goals grind [Content.sort]
    · intro items
      cases items with
      | nil => mvcgen [Graph.itemEntries]
      | cons item rest =>
        mvcgen [Graph.itemEntries, hflatten, hitems]
        all_goals grind [Content.sort]

/-- **Merging keeps what is known of the graph.** -/
theorem flatten_changes {number : Nat} (hn : collections number) :
    Changes events collections (flatten number) := by
  have hfrom (fuel : Nat) : Changes events collections (flattenFrom fuel number 0 []) :=
    (merges fuel).flattenFrom number 0 [] hn
  mvcgen [flatten, hfrom]

/-! ### Making documents -/

/-- What a reading comes to, as a triple. -/
theorem triple_of_ends {α : Type} {Q : α → Prop} {P : Mishap → Prop} {x : Except Refusal α}
    (hx : Ends Q P x) : ⦃⌜True⌝⦄ x ⦃post⟨fun a => ⌜Q a⌝, fun e => ⌜e.Only P⌝⟩⦄ := by
  intro _
  cases x with
  | ok a => exact hx
  | error e => exact hx

theorem textOf_ends {g : Graph} (h : ∀ v ∈ g, v.IsFrom events) (fuel number : Nat) :
    Ends (fun text => text = "" ∨ ∃ plain, IsWritten events text plain) (fun _ => False)
      (textOf g fuel number) := by
  induction fuel generalizing number with
  | zero => exact .inl rfl
  | succ fuel ih =>
    rw [textOf]
    split
    · exact .inl rfl
    next v hv =>
    dsimp only
    split
    · next text htext =>
      have hfrom := h v (Array.mem_of_getElem? hv)
      cases hfrom with
      | scalar hwritten =>
        cases htext
        exact .inr ⟨_, hwritten⟩
      | collection hsort =>
        cases htext
        exact (hsort rfl).elim
    · trivial
    · split
      · exact ih _
      · trivial

/-- **A scalar is made, or it is misread.** -/
theorem scalarOf_ends {g : Graph} (h : ∀ v ∈ g, v.IsFrom events) {number : Nat} {v : Vertex}
    (hv : g[number]? = some v) :
    Ends (fun _ => True) (Misread events) (scalarOf g number v) := by
  have hfrom := h v (Array.mem_of_getElem? hv)
  unfold scalarOf
  cases hfrom with
  | @scalar text plain tag line hwritten htag =>
    have htext : textOf g (g.size + 1) number = .ok text := by rw [textOf, hv]
    rw [htext]
    refine .of_mishap fun m hm => ?_
    rcases htag with rfl | ⟨rfl, rfl⟩ | hnamed
    · cases hm
    · exact .plain hwritten hm
    · exact .tagged hnamed (.inr ⟨plain, hwritten⟩) hm
  | @collection tag line content hsort htag =>
    refine (textOf_ends h _ _).of_problems.bind fun text htext => ?_
    split
    · next hcontent htimestamp =>
      cases htimestamp
      refine .timestamp ?_ rfl
      simpa using htag
    · refine .of_mishap fun m hm => ?_
      rcases htag with rfl | rfl | rfl | hnamed
      · cases hm
      · cases hm
      · cases hm
      · exact .tagged hnamed htext hm

@[spec]
theorem scalarOf_spec {g : Graph} {number : Nat} {v : Vertex}
    (h : g.IsSound events collections) (hv : g[number]? = some v) :
    ⦃⌜True⌝⦄ scalarOf g number v
      ⦃post⟨fun _ => ⌜True⌝, fun e => ⌜e.Only (Misread events)⌝⟩⦄ :=
  triple_of_ends (scalarOf_ends h.isFrom hv)

@[spec]
theorem flatten_spec {g : Graph} {number : Nat} (h : g.IsSound events collections)
    (hn : collections number) :
    ⦃⌜True⌝⦄ flatten number g
      ⦃post⟨fun r => ⌜r.2.IsSound events collections⌝, fun e => ⌜e.Only (Misread events)⌝⟩⦄ :=
  triple_of_ends (triple_iff.mp (flatten_changes hn) g h).of_problems

@[spec]
theorem entriesOf_spec {g : Graph} (number : Nat) (h : g.IsSound events collections) :
    ⦃⌜True⌝⦄ entriesOf number g
      ⦃post⟨fun _ => ⌜True⌝, fun e => ⌜e.Only (Misread events)⌝⟩⦄ := by
  have hends := triple_iff.mp (entriesOf_changes number) g h
  exact triple_of_ends (Ends.imp hends (fun _ _ => trivial) fun _ => False.elim)

/-- A step of making documents leaves the graph sound, and fails with a misread scalar if not with a
problem. -/
abbrev Makes {α : Type} (events : List Event) (collections : Nat → Prop) (x : Make α) : Prop :=
  Keeps (fun m => IsSound events collections m.graph) (Misread events) x

@[spec]
theorem visit_makes (number : Nat) : Makes events collections (visit number) := by
  mvcgen [visit]

@[spec]
theorem visitEntries_makes (es : List (Nat × Nat)) (made : List (Document × Nat)) :
    Makes events collections (visitEntries es made) := by
  induction es generalizing made with
  | nil => mvcgen [visitEntries]
  | cons e rest ih =>
    mvcgen [visitEntries, ih]

@[spec]
theorem visitParts_makes (number : Nat) : Makes events collections (visitParts number) := by
  mvcgen [visitParts] invariants
  · post⟨fun _ m => ⌜IsSound events collections m.graph⌝, fun e => ⌜e.Only (Misread events)⌝⟩
  case vc4 m hsound v hv entries hcontent _ =>
    exact (hsound.isCollection number).mp ⟨v, hv, by simp [hcontent, Content.sort]⟩
  case vc12 => exact id

@[spec]
theorem visitAll_makes (fuel position : Nat) :
    Makes events collections (visitAll fuel position) := by
  induction fuel generalizing position with
  | zero => mvcgen [visitAll]
  | succ fuel ih => mvcgen [visitAll, ih]

/-- **A document is made of a graph, or a scalar of it is misread.** -/
theorem toDocument_ends {g : Graph} (h : ∀ v ∈ g, v.IsFrom events) (root : Nat) :
    Ends (fun _ => True) (Misread events) (toDocument g root) := by
  have hsound : g.IsSound events g.IsCollection := ⟨h, fun _ => Iff.rfl⟩
  have hmakes : Makes events g.IsCollection (do visit root; visitAll (g.size + 1) 0) := by
    mvcgen
  exact (triple_iff.mp hmakes _ hsound).bind fun _ _ => trivial

/-- **The graph of a text is from its events.** -/
theorem ofEvents_ends (s : Event.Supply) :
    Ends (fun r => ∀ v ∈ r.1, v.IsFrom s.events) (fun m => s.complaint = some (.mishap m))
      (ofEvents s) := by
  have hempty : Builder.IsSound s.events ⟨#[], [], [], none⟩ :=
    ⟨fun _ hv => absurd hv (Array.not_mem_empty _), fun _ ho => absurd ho List.not_mem_nil⟩
  exact (build_ends hempty fun _ => id).bind fun b hb => hb.isFrom

end Graph

/-! ### Texts -/

/-- The events of a text. -/
def eventsOf (text : String) : List Event := (Event.parse (Token.scan text.toList)).events

/-- **What a reading of YAML fails with beyond a problem** is an escape of the text that stands for
no character, or a scalar of it that is misread. -/
theorem read_mishap {source : Source} {m : Mishap}
    (h : read source.toText = .error (.mishap m)) :
    Escapes source m ∨ Misread (eventsOf source.toText) m := by
  suffices hends : Ends (fun _ => True)
      (fun m => Escapes source m ∨ Misread (eventsOf source.toText) m) (read source.toText) by
    rw [h] at hends
    exact hends
  unfold read
  dsimp only
  split
  · trivial
  · have hgraph := Graph.ofEvents_ends (Event.parse (Token.scan source.toText.toList))
    refine Ends.bind (hgraph.imp (fun _ => id) fun m hm => .inl ?_) fun r hr => ?_
    · exact Token.scan_mishap (Event.parse_mishap hm)
    · obtain ⟨g, root⟩ := r
      cases root with
      | none => trivial
      | some n => exact (Graph.toDocument_ends hr n).imp (fun _ => id) fun _ => .inr

end Treewalk.Yaml
