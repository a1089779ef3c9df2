import Treewalk.Document.Yaml.Event
import Treewalk.Document.Yaml.Scalar

/-!
# Events as a graph of nodes

An alias stands for the node that carries its anchor, so the nodes of a text form a graph, possibly
with cycles. `Treewalk.Yaml.Graph.ofEvents` builds the graph of the one document that a text may
hold, and `Treewalk.Yaml.Graph.toDocument` unfolds it.

Nodes are made into documents level by level from the root: a collection's own parts are looked at
after all the nodes met before it. This settles which of several complaints comes first.
-/

namespace Treewalk.Yaml

/-- What a node of the graph holds; parts are given by their numbers. -/
inductive Content where
  | scalar (text : String)
  | sequence (items : List Nat)
  | mapping (entries : List (Nat × Nat))

/-- The sort of a node. -/
def Content.sort : Content → NodeSort
  | .scalar _ => .scalar
  | .sequence _ => .sequence
  | .mapping _ => .mapping

/-- A node of the graph. -/
structure Vertex where
  tag : Tag
  line : Nat
  content : Content

/-- The nodes of a text, by number. -/
abbrev Graph := Array Vertex

namespace Graph

/-! ### Building the graph -/

/-- A collection whose end has not been met, with its parts so far, the last one first. -/
structure Opened where
  number : Nat
  isMapping : Bool
  parts : List Nat

/-- The state of building: the nodes, the anchors, the open collections, and the root. -/
structure Builder where
  nodes : Graph
  anchors : List (String × Nat)
  opened : List Opened
  root : Option Nat

/-- Pairs of consecutive numbers. -/
def pairs : List Nat → List (Nat × Nat)
  | a :: b :: rest => (a, b) :: pairs rest
  | _ => []

namespace Builder

/-- Makes a node a part of the innermost open collection, or the root. -/
def attach (b : Builder) (number : Nat) : Builder :=
  match b.opened with
  | [] => { b with root := some number }
  | o :: rest => { b with opened := { o with parts := number :: o.parts } :: rest }

/-- Adds a node, under its anchor if it has one. -/
def add (b : Builder) (v : Vertex) (anchor : Option String) : Builder :=
  { b with
    nodes := b.nodes.push v
    anchors := anchor.elim b.anchors fun a => (a, b.nodes.size) :: b.anchors }

/-- The tag of a collection: what it says, or the usual one. -/
def collectionTag (d : Decoration) (usual : Tag) : Tag :=
  match d.tag with
  | none => usual
  | some "!" => usual
  | some name => .ofName name

/-- The tag of a scalar. -/
def scalarTag (d : Decoration) (text : String) (plain : Bool) : Tag :=
  let usual := if plain then Tag.ofPlain text else .str
  match d.tag with
  | none => usual
  | some "!" => usual
  | some name => .ofName name

/-- Refuses an anchor that is taken. -/
def checkAnchor (b : Builder) (d : Decoration) (line : Nat) : Except Refusal Unit :=
  match d.anchor with
  | none => .ok ()
  | some a =>
    if (b.anchors.lookup a).isSome then .error (.problem .duplicateAnchor line) else .ok ()

/-- Closes the innermost open collection and makes it a part of the one around it. -/
def close (b : Builder) : Builder :=
  match b.opened with
  | [] => b
  | o :: rest =>
    let parts := o.parts.reverse
    let content := if o.isMapping then Content.mapping (pairs parts) else .sequence parts
    attach { b with
      nodes := b.nodes.modify o.number fun v => { v with content := content }
      opened := rest } o.number

/-- Takes in one event of a document. -/
def step (b : Builder) (e : Event) : Except Refusal Builder :=
  match e.kind with
  | .alias name =>
    match b.anchors.lookup name with
    | some number => .ok (b.attach number)
    | none => .error (.problem (.undefinedAlias name) e.line)
  | .scalar d text plain => do
    b.checkAnchor d e.line
    let v : Vertex := ⟨scalarTag d text plain, e.line, .scalar text⟩
    return (b.add v d.anchor).attach b.nodes.size
  | .sequenceStart d => do
    b.checkAnchor d e.line
    let b' := b.add ⟨collectionTag d .sequence, e.line, .sequence []⟩ d.anchor
    return { b' with opened := ⟨b.nodes.size, false, []⟩ :: b.opened }
  | .mappingStart d => do
    b.checkAnchor d e.line
    let b' := b.add ⟨collectionTag d .mapping, e.line, .mapping []⟩ d.anchor
    return { b' with opened := ⟨b.nodes.size, true, []⟩ :: b.opened }
  | .sequenceEnd | .mappingEnd => .ok b.close
  | .documentStart | .documentEnd | .streamEnd => .ok b

end Builder

/-- Takes in events up to the end of the stream. Only one document may start. -/
def build (complaint : Option Refusal) : (started : Bool) → Builder → List Event →
    Except Refusal Builder
  | _, b, [] => complaint.elim (.ok b) .error
  | started, b, e :: rest =>
    match e.kind, started with
    | .documentStart, true => .error (.problem .anotherDocument e.line)
    | .documentStart, false => build complaint true b rest
    | _, _ => do build complaint started (← b.step e) rest

/-- The graph of the document that a text holds, and the number of its root, if it holds one. -/
def ofEvents (s : Event.Supply) : Except Refusal (Graph × Option Nat) := do
  let b ← build s.complaint false ⟨#[], [], [], none⟩ s.events
  return (b.nodes, b.root)

/-! ### Merging mappings -/

/-- Changes to the graph that may fail. -/
abbrev Change := StateT Graph (Except Refusal)

/-- The node with a number. -/
def vertex (n : Nat) : Change Vertex := do
  return (← get)[n]?.getD ⟨.nil, 0, .scalar ""⟩

/-- The entries of a mapping. -/
def entriesOf (n : Nat) : Change (List (Nat × Nat)) := do
  match (← vertex n).content with
  | .mapping es => return es
  | _ => return []

/-- Replaces the entries of a mapping. -/
def setEntries (n : Nat) (es : List (Nat × Nat)) : Change Unit :=
  modify fun g => g.modify n fun v => { v with content := .mapping es }

mutual

/-- Puts the entries of merged mappings in front of a mapping's own, from the entry at `position`
on. `merged` are the entries merged so far. -/
def flattenFrom : (fuel : Nat) → (number position : Nat) → (merged : List (Nat × Nat)) → Change Unit
  | 0, _, _, _ => return
  | fuel + 1, number, position, merged => do
    let es ← entriesOf number
    match es[position]? with
    | none => if !merged.isEmpty then setEntries number (merged ++ es)
    | some (k, v) =>
      let key ← vertex k
      match key.tag with
      | .merge =>
        setEntries number (es.eraseIdx position)
        let found ← mergedEntries fuel v
        flattenFrom fuel number position (merged ++ found)
      | .value =>
        modify fun g => g.modify k fun v => { v with tag := .str }
        flattenFrom fuel number (position + 1) merged
      | _ => flattenFrom fuel number (position + 1) merged

/-- The entries that a merge key brings in. -/
def mergedEntries : (fuel : Nat) → (number : Nat) → Change (List (Nat × Nat))
  | 0, _ => return []
  | fuel + 1, number => do
    let v ← vertex number
    match v.content with
    | .mapping _ =>
      flattenFrom fuel number 0 []
      entriesOf number
    | .sequence items => itemEntries fuel items
    | .scalar _ => throw (.problem (.wantedMerge .scalar) v.line)

/-- The entries of a list of mappings, those of later mappings in front. -/
def itemEntries : (fuel : Nat) → List Nat → Change (List (Nat × Nat))
  | 0, _ => return []
  | _, [] => return []
  | fuel + 1, item :: rest => do
    let w ← vertex item
    match w.content with
    | .mapping _ =>
      flattenFrom fuel item 0 []
      let own ← entriesOf item
      return (← itemEntries fuel rest) ++ own
    | c => throw (.problem (.wantedMergeItem c.sort) w.line)

end

/-- Merges what a mapping's merge keys bring in. -/
def flatten (number : Nat) : Change Unit := do
  let g ← get
  let size := g.foldl (fun n v => match v.content with
    | .mapping es => n + es.length + 1
    | .sequence items => n + items.length + 1
    | .scalar _ => n + 1) 0
  flattenFrom (2 * size * (size + 1) + 2) number 0 []

/-! ### Making documents -/

/-- A node that has been looked at: a finished scalar, a list, or a mapping whose keys are
finished. -/
inductive Made where
  | done (d : Document)
  | list (items : List Nat)
  | mapping (entries : List (Document × Nat))

/-- The state of making documents: the graph, what has been made of its nodes, and the collections
whose parts are still to be looked at. -/
structure Maker where
  graph : Graph
  made : Array (Option Made)
  queue : Array Nat

/-- A step of making documents. -/
abbrev Make := StateT Maker (Except Refusal)

/-- The text of a node that is to be a scalar: its own, or that of the value which a mapping has
under the key for its value. -/
def textOf (g : Graph) : (fuel number : Nat) → Except Refusal String
  | 0, _ => .ok ""
  | fuel + 1, number =>
    match g[number]? with
    | none => .ok ""
    | some v =>
      let refusal (found : NodeSort) : Refusal := .problem (.wantedSort .scalar found) v.line
      match v.content with
      | .scalar text => .ok text
      | .sequence _ => .error (refusal .sequence)
      | .mapping entries =>
        match entries.find? fun e => g[e.1]?.map (·.tag) = some .value with
        | some e => textOf g fuel e.2
        | none => .error (refusal .mapping)

/-- Makes a scalar of a node. -/
def scalarOf (g : Graph) (number : Nat) (v : Vertex) : Except Refusal Document := do
  let text ← textOf g (g.size + 1) number
  match v.content, v.tag with
  | .mapping _, .timestamp =>
    throw (.mishap (.type "expected string or bytes-like object, got 'list'"))
  | _, tag => Scalar.construct number v.line tag text

/-- Looks at a node: a scalar is made at once, a collection is put off. -/
def visit (number : Nat) : Make Unit := do
  let m ← get
  if (m.made[number]?.getD none).isSome then return
  match m.graph[number]? with
  | none => return
  | some v =>
    let put := fun (made : Made) (queue : Array Nat) =>
      set { m with made := m.made.setIfInBounds number (some made), queue := queue }
    match v.content, v.tag with
    | .scalar _, _ => do put (.done (← scalarOf m.graph number v)) m.queue
    | _, .sequence => put (.list []) (m.queue.push number)
    | _, .mapping => put (.mapping []) (m.queue.push number)
    | _, .nil | _, .bool | _, .int | _, .float | _, .timestamp | _, .str => do
      put (.done (← scalarOf m.graph number v)) m.queue
    | _, tag => throw (.problem (.unknownTag tag.name) v.line)

/-- Puts an entry into a mapping: a key that is there keeps its place. -/
def putEntry (key : Document) (value : Nat) :
    List (Document × Nat) → List (Document × Nat)
  | [] => [(key, value)]
  | (k, v) :: rest =>
    if Document.sameKey k key then (k, value) :: rest else (k, v) :: putEntry key value rest

/-- Looks at the entries of a mapping. -/
def visitEntries : List (Nat × Nat) → List (Document × Nat) → Make (List (Document × Nat))
  | [], made => return made
  | (k, v) :: rest, made => do
    visit k
    let m ← get
    match m.made[k]?.getD none with
    | some (.done key) =>
      visit v
      visitEntries rest (putEntry key v made)
    | _ =>
      let line := (m.graph[k]?.map (·.line)).getD 0
      throw (.problem .unhashableKey line)

/-- Looks at the parts of a collection. -/
def visitParts (number : Nat) : Make Unit := do
  let m ← get
  match m.graph[number]? with
  | none => return
  | some v =>
    match v.tag, v.content with
    | .mapping, .mapping _ =>
      let ((), graph) ← flatten number m.graph
      set { m with graph := graph }
      let (es, _) ← entriesOf number graph
      let entries ← visitEntries es []
      modify fun m => { m with made := m.made.setIfInBounds number (some (.mapping entries)) }
    | .sequence, .sequence items =>
      for item in items do visit item
      modify fun m => { m with made := m.made.setIfInBounds number (some (.list items)) }
    | .mapping, c => throw (.problem (.wantedSort .mapping c.sort) v.line)
    | _, c => throw (.problem (.wantedSort .sequence c.sort) v.line)

/-- Looks at the parts of all collections in the order they were put off. -/
def visitAll : (fuel : Nat) → (position : Nat) → Make Unit
  | 0, _ => return
  | fuel + 1, position => do
    match (← get).queue[position]? with
    | none => return
    | some number =>
      visitParts number
      visitAll fuel (position + 1)

/-- Unfolds a node. `path` holds the collections around it; one that is met for the third time is
not unfolded again. -/
def unfold (made : Array (Option Made)) : (fuel : Nat) → (path : List Nat) → Nat → Document
  | 0, _, number => .back number true
  | fuel + 1, path, number =>
    match made[number]?.getD none with
    | none => .nil
    | some (.done d) => d
    | some (.list items) =>
      if 2 ≤ path.count number then .back number true
      else .list (some number) (items.map (unfold made fuel (number :: path)))
    | some (.mapping entries) =>
      if 2 ≤ path.count number then .back number false
      else .mapping (some number) (entries.map fun e => (e.1, unfold made fuel (number :: path) e.2))

/-- The document of a graph. -/
def toDocument (g : Graph) (root : Nat) : Except Refusal Document := do
  let start : Maker := ⟨g, Array.replicate g.size none, #[]⟩
  let ((), m) ← (do visit root; visitAll (g.size + 1) 0 : Make Unit) start
  return unfold m.made (2 * g.size + 2) [] root

end Graph

end Treewalk.Yaml
