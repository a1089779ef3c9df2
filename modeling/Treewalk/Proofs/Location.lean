import Treewalk.Proofs.Stack
import Treewalk.Proofs.Unplaced
import Treewalk.Runner.Basic

/-!
# Where a failed run is located

A report gets its place from two sources that know nothing of each other: a fault of the evaluator
carries the place it was raised at, or is moved to by a call, and a mishap of the surroundings is
placed at the node that was visited last. This file shows that the two agree. When a run fails, the
reported place is that of the node being evaluated, and this node is the one to blame
(`Treewalk.Blamed`): a definition of a name that is taken, the call or the bare name that could not
be carried out, or the test that failed.

There are two exceptions, and both begin in the surroundings. What they raise themselves as a
failure of the program keeps the place that they gave it, if any. And a test that they refuse for a
number of arguments is taken over by the innermost call that is open, for which alone such a refusal
is meant. Surroundings that know nothing of places (`Treewalk.Bridge.IsUnplaced`) do neither.

The argument goes along the course of the evaluation (`Treewalk.Course.settled`). What is raised
inside a call is not yet settled, because a wrong number of arguments has no line before the call
gives it one; so the statement about a call is about the fault *after* it was moved
(`Treewalk.Subject.moved`). A fault that is settled is not moved again by the calls further out, and
this is why the innermost call keeps it.

* **`Treewalk.Runner.failure_located`**: the law for a run of a program.
* **`Treewalk.Runner.failure_misplaced`**: a routine that gives its failure a place of its own.
-/

namespace Treewalk

open Treewalk.Core

/-! ### Nodes of a tree -/

namespace Node

/-- The nodes directly below a node, the body of a definition among them. -/
def children : Node → List Node
  | .define _ _ _ body => body
  | n => n.parts

/-- **A node of a tree**, at any depth. -/
inductive Occurs (tree : List Node) : Node → Prop
  /-- The nodes at the top. -/
  | top {n : Node} : n ∈ tree → Occurs tree n
  /-- The nodes below one of the tree. -/
  | child {m n : Node} : Occurs tree m → n ∈ m.children → Occurs tree n

variable {tree body : List Node} {m n : Node}

theorem mem_children_of_mem_parts (h : n ∈ m.parts) : n ∈ m.children := by
  cases m with
  | define => simp [parts] at h
  | _ => exact h

/-- The nodes below a node are smaller. -/
theorem sizeOf_lt_of_mem_children (h : m ∈ n.children) : sizeOf m < sizeOf n := by
  have hbody {ns : List Node} (hm : m ∈ ns) : sizeOf m < sizeOf ns := List.sizeOf_lt_of_mem hm
  cases n with
  | literal | string | var => simp [children, parts] at h
  | assign place name value =>
    obtain rfl : m = value := by simpa [children, parts] using h
    rw [Node.assign.sizeOf_spec]
    omega
  | cond place test thenBody elseBody =>
    rw [Node.cond.sizeOf_spec]
    simp only [children, parts, List.mem_cons, List.mem_append] at h
    rcases h with rfl | h | h
    · omega
    · have hsmaller := hbody h
      omega
    · cases elseBody with
      | none => simp at h
      | some inner =>
        have hsmaller : sizeOf m < sizeOf inner := hbody (by simpa using h)
        rw [Option.some.sizeOf_spec]
        omega
  | loop place test inner =>
    rw [Node.loop.sizeOf_spec]
    simp only [children, parts, List.mem_cons] at h
    rcases h with rfl | h
    · omega
    · have hsmaller := hbody h
      omega
  | define place name params inner =>
    have hsmaller : sizeOf m < sizeOf inner := hbody h
    rw [Node.define.sizeOf_spec]
    omega
  | call place name args =>
    have hsmaller : sizeOf m < sizeOf args := hbody h
    rw [Node.call.sizeOf_spec]
    omega

/-- **Induction over trees**: what holds of a node as soon as it holds of those directly below holds
of every node. -/
theorem induction {P : Node → Prop} (h : ∀ n : Node, (∀ m ∈ n.children, P m) → P n) (n : Node) :
    P n :=
  h n fun m _ => induction h m
termination_by sizeOf n
decreasing_by exact sizeOf_lt_of_mem_children ‹_›

/-- What is within a body of the tree is in the tree. -/
theorem Within.occurs (h : Within body n) (hbody : ∀ m ∈ body, Occurs tree m) : Occurs tree n := by
  induction h with
  | top hn => exact hbody _ hn
  | part _ hn ih => exact .child ih (mem_children_of_mem_parts hn)

/-- What a node asks for: the call of a name, or, with no name, a test. -/
def Asks (n : Node) : Option String → Prop
  | some name => n.callee? = some name
  | none => n.isTest = true

end Node

/-! ### Places that can be reported -/

/-- **A plain place**: the line is an integer that can be written, and the file is a text or nil. -/
structure Place.IsPlain (p : Place) : Prop where
  file_eq : p.file = .nil ∨ ∃ s, p.file = .str s
  line_eq : ∃ n, p.line = .int n ∧ Decimal.isTooLong n = false

/-- **A place that a report can name**: it has a line, and can be written. -/
structure Place.IsReportable (p : Place) : Prop where
  isPositioned : p.isPositioned = true
  isWritable : p.isWritable = true

theorem Place.IsPlain.isReportable {p : Place} (h : p.IsPlain) : p.IsReportable := by
  obtain ⟨n, hline, hn⟩ := h.line_eq
  obtain ⟨file, line⟩ := p
  subst hline
  have hfile : file.hasHugeInt = false := by
    rcases h.file_eq with hnil | ⟨s, hs⟩
    · rw [show file = .nil from hnil]
      rfl
    · rw [show file = .str s from hs]
      rfl
  refine ⟨rfl, ?_⟩
  simp [isWritable, Document.int, Document.hasHugeInt, hfile, hn]

/-- **A program with plain places only.** -/
def Program.IsPlain (p : Program) : Prop := ∀ n : Node, n.Occurs p.body → n.place.IsPlain

namespace Fault

theorem movedTo_of_isPositioned {f : Fault} (place : Place) (h : f.isPositioned = true) :
    f.movedTo place = f := by
  simp [movedTo, h]

theorem movedTo_of_not_isArity {f : Fault} (place : Place) (h : f.isArity = false) :
    f.movedTo place = f := by
  have hrel : f.relocated place = f := by
    cases f with
    | host m => rfl
    | raised cause old => cases cause <;> simp_all [relocated, isArity, Cause.isArity]
  simp [movedTo, hrel]

/-- What can be written is raised as it is. -/
theorem raise_of_isWritable {cause : Cause} {place : Place} (hc : cause.isWritable = true)
    (hp : place.isWritable = true) : raise cause place = .raised cause place := by
  simp [raise, hc, hp]

/-- A fault that is raised at a place a report can name stays there. -/
theorem raise_movedTo {cause : Cause} {place : Place} (other : Place) (hc : cause.isWritable = true)
    (hp : place.IsReportable) : (raise cause place).movedTo other = .raised cause place := by
  rw [raise_of_isWritable hc hp.isWritable]
  exact movedTo_of_isPositioned other hp.isPositioned

/-- A wrong number of arguments without a line goes to the place of the call. -/
theorem arity_movedTo {name : String} {got : Int} {want : Want} {old place : Place}
    (hold : old.isPositioned = false) (hp : place.IsReportable) :
    (raised (.arity name got want) old).movedTo place = .raised (.arity name got want) place := by
  rw [movedTo, if_neg (by simp [isPositioned, hold])]
  exact raise_of_isWritable rfl hp.isWritable

end Fault

variable {V W : Type}

/-! ### What the surroundings raise -/

/-- **The surroundings raise a fault at a turn**, when they are asked on behalf of the call of a
name, or of a test. -/
inductive Turn.Raises (b : Bridge V W) (f : Fault) : Turn V W → Option String → Prop
  /-- When asked for a capability. -/
  | has {c : Core V W} {call : Request V} {target : V} {w : W} :
      b.has target call.name c.world = .error f w →
      Raises b f ⟨c, .has call target⟩ (some call.name)
  /-- When a capability is invoked. -/
  | invoke {c : Core V W} {call : Request V} {target : V} {args : List V} {w : W} :
      b.invoke c.activation target call.name args c.world = .error f w →
      Raises b f ⟨c, .invoke call target args⟩ (some call.name)
  /-- When a value is tested. -/
  | truthy {c : Core V W} {v : V} {w : W} : b.truthy v c.world = .error f w →
      Raises b f ⟨c, .truthy v⟩ none

/-- The surroundings raise a fault at the last of some turns. -/
def RaisedLast (b : Bridge V W) (ts : List (Turn V W)) (asked : Option String) (f : Fault) : Prop :=
  ∃ before t, ts = before ++ [t] ∧ t.Raises b f asked

theorem RaisedLast.append {b : Bridge V W} {ts : List (Turn V W)} {asked : Option String}
    {f : Fault} (before : List (Turn V W)) (h : RaisedLast b ts asked f) :
    RaisedLast b (before ++ ts) asked f := by
  obtain ⟨earlier, t, rfl, ht⟩ := h
  exact ⟨before ++ earlier, t, by simp, ht⟩

theorem RaisedLast.single {b : Bridge V W} {t : Turn V W} {asked : Option String} {f : Fault}
    (h : t.Raises b f asked) : RaisedLast b [t] asked f :=
  ⟨[], t, rfl, h⟩

section Unplaced

variable {b : Bridge V W} {ts : List (Turn V W)} {asked : Option String} {f : Fault}

/-- Surroundings that know nothing of places give no fault one. -/
theorem RaisedLast.isPositioned (h : RaisedLast b ts asked f) (hb : b.IsUnplaced) :
    f.isPositioned = false := by
  obtain ⟨-, t, -, hraises⟩ := h
  cases hraises with
  | has hask => exact hb.has _ _ _ _ _ hask
  | invoke hask => exact hb.invoke _ _ _ _ _ _ _ hask
  | truthy hask => exact (hb.truthy _ _ _ _ hask).1

/-- They do not refuse a test for a number of arguments either. -/
theorem RaisedLast.not_isArity (h : RaisedLast b ts none f) (hb : b.IsUnplaced) :
    f.isArity = false := by
  obtain ⟨-, t, -, hraises⟩ := h
  cases hraises with
  | truthy hask => exact (hb.truthy _ _ _ _ hask).2

end Unplaced

/-! ### Who is to blame -/

/-- **A node is to blame for a fault**, which ended some turns and left a core behind. -/
inductive Blamed (b : Bridge V W) (ts : List (Turn V W)) (c : Core V W) (n : Node) : Fault → Prop
  /-- It defines a name that is taken. -/
  | conflict {place : Place} {name : String} {params : List String} {body : List Node} :
      n = .define place name params body → (c.functions.lookup name).isSome →
      Blamed b ts c n (.raised (.conflict name) n.place)
  /-- It calls a name that nobody knows. -/
  | unresolved {name : String} (use : Use) : n.callee? = some name →
      c.functions.lookup name = none →
      Blamed b ts c n (.raised (.unresolved name use) n.place)
  /-- It calls a function for which there is no room. -/
  | tooDeep {name : String} : n.callee? = some name → (c.functions.lookup name).isSome →
      c.maxDepth ≤ c.depth → Blamed b ts c n (.raised .tooDeep n.place)
  /-- It calls a function with a wrong number of arguments. The frame of the function is the active
  one. -/
  | arity {name : String} {f : Function} {got : Nat} : n.callee? = some name →
      c.functions.lookup name = some f → got ≠ f.params.length → c.frame = ⟨name, []⟩ →
      c.calls.head?.map CallEntry.site = some n.place →
      Blamed b ts c n (.raised (.arity name got (.exactly f.params.length)) n.place)
  /-- It calls a capability with a wrong number of arguments. -/
  | refused {name title : String} {got : Int} {want : Want} {place : Place} :
      n.callee? = some name → RaisedLast b ts (some name) (.raised (.arity title got want) place) →
      Blamed b ts c n (.raised (.arity title got want) n.place)
  /-- It makes the surroundings fail. -/
  | mishap {asked : Option String} {m : Mishap} : n.Asks asked → RaisedLast b ts asked (.host m) →
      Blamed b ts c n (.host m)

/-- **A fault is settled** between two cores: no call that is open at the first one moves it
again. -/
inductive Settled (b : Bridge V W) (tree : List Node) (ts : List (Turn V W)) (c c' : Core V W) :
    Fault → Prop
  /-- The node being evaluated is to blame. -/
  | blamed {n : Node} {f : Fault} : c'.current = some n → n.Occurs tree → Blamed b ts c' n f →
      Settled b tree ts c c' f
  /-- The surroundings raised it as a failure of the program, and it stays where they put it. -/
  | given {asked : Option String} {cause : Cause} {place : Place} :
      place.isPositioned = true ∨ cause.isArity = false →
      RaisedLast b ts asked (.raised cause place) → Settled b tree ts c c' (.raised cause place)
  /-- The surroundings refused a test for a number of arguments, and no call was begun. This one is
  still moved, by the first call. -/
  | test {title : String} {got : Int} {want : Want} {place : Place} : place.isPositioned = false →
      RaisedLast b ts none (.raised (.arity title got want) place) → c'.calls = c.calls →
      Settled b tree ts c c' (.raised (.arity title got want) place)
  /-- They refused a test, and the innermost open call took this over. -/
  | enclosing {title : String} {got : Int} {want : Want} {place : Place} {e : CallEntry} :
      place.isPositioned = false → RaisedLast b ts none (.raised (.arity title got want) place) →
      c'.calls.head? = some e → e.site.isPositioned = true →
      Settled b tree ts c c' (.raised (.arity title got want) e.site)

section Settled

variable {b : Bridge V W} {tree : List Node} {ts : List (Turn V W)} {c c₁ c' : Core V W}
  {n : Node} {f : Fault}

theorem Blamed.append (before : List (Turn V W)) (h : Blamed b ts c n f) :
    Blamed b (before ++ ts) c n f := by
  cases h with
  | conflict hn hf => exact .conflict hn hf
  | unresolved use hn hf => exact .unresolved use hn hf
  | tooDeep hn hf hroom => exact .tooDeep hn hf hroom
  | arity hn hf hgot hframe hsite => exact .arity hn hf hgot hframe hsite
  | refused hn hlast => exact .refused hn (hlast.append before)
  | mishap hn hlast => exact .mishap hn (hlast.append before)

/-- What is settled after some turns is settled after some more in front of them, if these left the
calls as they were. -/
theorem Settled.append (before : List (Turn V W)) (h : Settled b tree ts c₁ c' f)
    (hcalls : c₁.calls = c.calls) : Settled b tree (before ++ ts) c c' f := by
  cases h with
  | blamed hcurrent hn hblamed => exact .blamed hcurrent hn (hblamed.append before)
  | given hstays hlast => exact .given hstays (hlast.append before)
  | test hplace hlast hnone => exact .test hplace (hlast.append before) (hnone.trans hcalls)
  | enclosing hplace hlast hhead hsite => exact .enclosing hplace (hlast.append before) hhead hsite

/-- The fault that a node is blamed for is at its place, or a mishap. -/
theorem Blamed.movedTo_eq (h : Blamed b ts c n f) (hn : n.place.isPositioned = true)
    (place : Place) : f.movedTo place = f := by
  cases h with
  | mishap => exact Fault.movedTo_of_not_isArity place rfl
  | _ => exact Fault.movedTo_of_isPositioned place hn

/-- What the surroundings gave a place, or is not about arguments, stays where it is. -/
theorem Fault.movedTo_of_given {cause : Cause} {old : Place}
    (h : old.isPositioned = true ∨ cause.isArity = false) (place : Place) :
    (raised cause old).movedTo place = .raised cause old := by
  rcases h with h | h
  · exact movedTo_of_isPositioned place h
  · exact movedTo_of_not_isArity place h

/-- **A settled fault is not moved again**, unless it is a refused test that meets its first
call. -/
theorem Settled.left {name : String} {site : Place} (h : Settled b tree ts c₁ c' f)
    (htree : ∀ n : Node, n.Occurs tree → n.place.IsReportable) (hsite : site.IsReportable)
    (hcalls : c₁.calls = ⟨name, site⟩ :: c.calls) :
    Settled b tree ts c c' (f.movedTo site) := by
  cases h with
  | blamed hcurrent hn hblamed =>
    rw [hblamed.movedTo_eq (htree _ hn).isPositioned]
    exact .blamed hcurrent hn hblamed
  | given hstays hlast =>
    rw [Fault.movedTo_of_given hstays]
    exact .given hstays hlast
  | test hplace hlast hnone =>
    rw [Fault.arity_movedTo hplace hsite]
    have hhead : c'.calls.head? = some ⟨name, site⟩ := by rw [hnone, hcalls, List.head?_cons]
    exact .enclosing hplace hlast hhead hsite.isPositioned
  | enclosing hplace hlast hhead hpositioned =>
    rw [Fault.movedTo_of_given (.inl hpositioned)]
    exact .enclosing hplace hlast hhead hpositioned

/-- **What the surroundings raise for a call is settled** as soon as the node that makes the call
has moved it to its own place. -/
theorem Settled.of_called {name : String} (hcurrent : c'.current = some n) (hn : n.Occurs tree)
    (hplace : n.place.IsReportable) (hname : n.callee? = some name)
    (hlast : RaisedLast b ts (some name) f) : Settled b tree ts c c' (f.movedTo n.place) := by
  cases f with
  | host m => exact .blamed hcurrent hn (.mishap (show n.Asks (some name) from hname) hlast)
  | raised cause place =>
    by_cases hstays : place.isPositioned = true ∨ cause.isArity = false
    · rw [Fault.movedTo_of_given hstays]
      exact .given hstays hlast
    · -- only a wrong number of arguments without a line is left, and the call takes it over
      obtain ⟨hpos, harity⟩ : place.isPositioned = false ∧ cause.isArity = true := by
        simpa using hstays
      cases cause with
      | arity title got want =>
        rw [Fault.arity_movedTo hpos hplace]
        exact .blamed hcurrent hn (.refused hname hlast)
      | _ => cases harity

/-- **What the surroundings raise for a test is settled** where it is raised. -/
theorem Settled.of_tested (hcurrent : c'.current = some n) (hn : n.Occurs tree)
    (htest : n.isTest = true) (hcalls : c'.calls = c.calls) (hlast : RaisedLast b ts none f) :
    Settled b tree ts c c' f := by
  cases f with
  | host m => exact .blamed hcurrent hn (.mishap (show n.Asks none from htest) hlast)
  | raised cause place =>
    by_cases hstays : place.isPositioned = true ∨ cause.isArity = false
    · exact .given hstays hlast
    · obtain ⟨hpos, harity⟩ : place.isPositioned = false ∧ cause.isArity = true := by
        simpa using hstays
      cases cause with
      | arity title got want => exact .test hpos hlast hcalls
      | _ => cases harity

end Settled

/-! ### Along a course -/

/-- The functions of a core are made of nodes of a tree. -/
def Core.InTree (tree : List Node) (c : Core V W) : Prop :=
  ∀ name f, c.functions.lookup name = some f → ∀ n ∈ f.body, n.Occurs tree

namespace Core.InTree

variable {tree : List Node} {c c' : Core V W}

theorem of_eq (hc : c.InTree tree) (h : c'.functions = c.functions) : c'.InTree tree := by
  intro name f hf
  rw [h] at hf
  exact hc name f hf

/-- A definition of the tree adds a function of the tree. -/
theorem defined {place : Place} {name : String} {params : List String} {body : List Node}
    (hc : c.InTree tree) (hn : Node.Occurs tree (.define place name params body)) :
    (c.defined name ⟨name, params, body, place⟩).InTree tree := by
  intro other f hf
  rw [defined_functions, List.lookup_append] at hf
  cases hold : c.functions.lookup other with
  | some g =>
    rw [hold] at hf
    cases hf
    exact hc other _ hold
  | none =>
    -- only the new entry is left to look at
    rw [hold, Option.none_or, List.lookup_cons] at hf
    split at hf
    · cases hf
      exact fun m hm => .child hn hm
    · cases hf

/-- A question leaves the functions as they were. -/
theorem ask {α : Type} (hc : c.InTree tree) (x : Ask W α) : (coreOf (ask x c)).InTree tree := by
  rw [coreOf_ask]
  exact hc.of_eq rfl

end Core.InTree

namespace Subject

/-- What is carried out belongs to a tree: the nodes of a body are in it, and a call is made by one
of its nodes, from the place where this stands. -/
def InTree (tree : List Node) : Subject V → Prop
  | .body nodes => ∀ n ∈ nodes, n.Occurs tree
  | .call request site node => ∃ n : Node, node = some n ∧ site = some n.place ∧
      n.callee? = some request.name ∧ n.Occurs tree

/-- A fault as it leaves what is carried out: a call moves it to its own place. -/
def moved : Subject V → Fault → Fault
  | .body _, f => f
  | .call _ site _, f => f.movedTo (site.getD .nowhere)

end Subject

/-- **Along a course every fault gets settled.** -/
theorem Course.settled {b : Bridge V W} {tree : List Node}
    (htree : ∀ n : Node, n.Occurs tree → n.place.IsReportable) {s : Subject V}
    {c c' : Core V W} {ts : List (Turn V W)} {o : Option Halt} (h : Course b s c ts o c')
    (hs : s.InTree tree) (hc : c.InTree tree) :
    c'.InTree tree ∧ ∀ f, o = some (.fault f) → Settled b tree ts c c' (s.moved f) := by
  induction h with
  | rest => exact ⟨hc, by simp⟩
  | next h _ ih ih' =>
    obtain ⟨hc₁, -⟩ := ih hs hc
    obtain ⟨hc₂, hsettled⟩ := ih' hs hc₁
    exact ⟨hc₂, fun f hf => (hsettled f hf).append _ h.calls_eq⟩
  | cut => exact ⟨hc, by simp⟩
  | note line _ => exact ⟨hc.of_eq (by simp), by simp⟩
  | visit _ => exact ⟨hc.of_eq rfl, by simp⟩
  | make text => exact ⟨hc.of_eq rfl, by simp⟩
  | assign name v => exact ⟨hc.of_eq rfl, by simp⟩
  | define hn _ _ => exact ⟨hc.defined (hn.occurs hs), by simp⟩
  | @conflict _ _ _ place name _ hn hcurrent hknown =>
    have hocc := hn.occurs hs
    refine ⟨hc, ?_⟩
    rintro f ⟨⟩
    have hraised : Fault.raise (.conflict name) place = .raised (.conflict name) place :=
      Fault.raise_of_isWritable rfl (htree _ hocc).isWritable
    rw [Subject.moved, hraised]
    exact .blamed hcurrent hocc (.conflict rfl hknown)
  | truthy v hn htest hcurrent =>
    refine ⟨hc.ask _, fun f hf => ?_⟩
    rw [coreOf_ask]
    exact .of_tested hcurrent (hn.occurs hs) htest rfl (.single (.truthy (error_of_haltOf_ask hf)))
  | call hn hname _ _ ih =>
    obtain ⟨hc', hsettled⟩ := ih ⟨_, rfl, rfl, hname, hn.occurs hs⟩ hc
    refine ⟨hc', fun f hf => ?_⟩
    -- the fault was moved on its way out of the call, which is what is known of it there
    obtain ⟨halt, rfl, hhalt⟩ := Option.map_eq_some_iff.mp hf
    cases halt with
    | outOfFuel => cases hhalt
    | fault inner =>
      cases hhalt
      exact hsettled inner rfl
  | unresolved use hnode hf =>
    obtain ⟨n, rfl, rfl, hname, hocc⟩ := hs
    refine ⟨hc, ?_⟩
    rintro f ⟨⟩
    rw [Subject.moved, Option.getD_some, Fault.raise_movedTo _ rfl (htree n hocc)]
    exact .blamed hnode hocc (.unresolved use hname hf)
  | tooDeep hnode hf hfull =>
    obtain ⟨n, rfl, rfl, hname, hocc⟩ := hs
    refine ⟨hc, ?_⟩
    rintro f ⟨⟩
    rw [Subject.moved, Option.getD_some, Fault.raise_movedTo _ rfl (htree n hocc)]
    exact .blamed hnode hocc (.tooDeep hname (by simp [hf]) hfull)
  | @arity request _ _ c f hnode hf hroom hargs =>
    obtain ⟨n, rfl, rfl, hname, hocc⟩ := hs
    refine ⟨hc.of_eq (by simp), ?_⟩
    rintro f ⟨⟩
    rw [Subject.moved, Option.getD_some, Fault.raise_of_isWritable rfl rfl,
      Fault.arity_movedTo rfl (htree n hocc)]
    exact .blamed (by simpa using hnode) hocc
      (.arity hname (by simpa using hf) hargs (by simp) (by simp))
  | @inside request _ _ c _ f _ _ hf _ _ _ ih =>
    obtain ⟨n, rfl, rfl, -, hocc⟩ := hs
    obtain ⟨hc', hsettled⟩ := ih (hc _ _ hf) (hc.of_eq (by simp))
    refine ⟨hc', fun fault ho => ?_⟩
    -- the body has settled it, and the call is the next that it meets
    have hcalls : ((c.entered request.name (some n.place)).bound f.params request.args).calls =
        ⟨request.name, n.place⟩ :: c.calls := by simp
    exact ((hsettled fault ho).left htree (htree n hocc) hcalls).append [_] rfl
  | through hf _ _ _ ih =>
    obtain ⟨hc', -⟩ := ih (hc _ _ hf) (hc.of_eq (by simp))
    exact ⟨hc'.of_eq (by simp), by simp⟩
  | has target hnode _ =>
    obtain ⟨n, rfl, rfl, hname, hocc⟩ := hs
    refine ⟨hc.ask _, fun f hf => ?_⟩
    rw [coreOf_ask]
    exact .of_called hnode hocc (htree n hocc) hname (.single (.has (error_of_haltOf_ask hf)))
  | invoke hnode _ _ =>
    obtain ⟨n, rfl, rfl, hname, hocc⟩ := hs
    refine ⟨hc.ask _, fun f hf => ?_⟩
    rw [coreOf_ask]
    exact .of_called hnode hocc (htree n hocc) hname (.single (.invoke (error_of_haltOf_ask hf)))

/-! ### Runs -/

/-- The failure that a run ended with, if it ended with one. -/
def Ending.failure? : Ending V → Option Failure
  | .failed failure => some failure
  | _ => none

theorem Ending.failure?_eq_some_iff {e : Ending V} {failure : Failure} :
    e.failure? = some failure ↔ e = .failed failure := by
  cases e <;> simp [failure?]

namespace Runner

variable (r : Runner V W) (tracing : Tracing) (fuel : Nat) (p : Program) (w : W)

/-- The core that a run starts with. -/
def start : Core V W := Core.fresh r.maxDepth tracing (r.bridge.clear w)

/-- **The turns of a run**: those of the program that the job is about, if it is about one. -/
def turns (r : Runner V W) (tracing : Tracing) (fuel : Nat) (job : Job) (w : W) :
    List (Turn V W) :=
  match job.load r.file with
  | .ok (.ok p) => p.turns r.bridge fuel (r.start tracing w)
  | _ => []

/-- A run of a job is the run of the program that it is about. -/
theorem run_of_load {job : Job} (h : job.load r.file = .ok (.ok p)) :
    r.run tracing fuel job w = r.run tracing fuel (.program p) w := by
  simp only [run, h]
  rfl

/-- A run of a program ends as the evaluation of the program does. -/
theorem run_program : r.run tracing fuel (.program p) w =
    match p.eval r.bridge fuel (r.start tracing w) with
    | .ok v c => ⟨.finished v, r.bridge.effects c.world, some c, c.world⟩
    | .error (.fault f) c =>
      ⟨ending f c.current c.calls, r.bridge.effects c.world, some c, c.world⟩
    | .error .outOfFuel c => ⟨.unfinished, r.bridge.effects c.world, some c, c.world⟩ := rfl

/-- A run leaves behind the core that the evaluation left. -/
theorem run_core : (r.run tracing fuel (.program p) w).core =
    some (coreOf (p.eval r.bridge fuel (r.start tracing w))) := by
  rw [run_program]
  cases p.eval r.bridge fuel (r.start tracing w) with
  | ok v c => rfl
  | error e c => cases e <;> rfl

/-- A run whose evaluation ended in a fault that can be reported is a failure. -/
theorem failed_of_fault {r : Runner V W} {tracing : Tracing} {fuel : Nat} {p : Program} {w : W}
    {f : Fault} {c : Core V W} {failure : Failure}
    (h : p.eval r.bridge fuel (r.start tracing w) = .error (.fault f) c)
    (hf : f.failure c.current c.calls = .ok failure) :
    (r.run tracing fuel (.program p) w).ending = .failed failure ∧
      (r.run tracing fuel (.program p) w).core = some c := by
  rw [run_program, h]
  simp only [ending, hf, and_self]

/-- A run that failed ended in a fault, and reports it as it left the core. -/
theorem fault_of_failed {failure : Failure}
    (h : (r.run tracing fuel (.program p) w).ending = .failed failure) :
    ∃ core fault, (r.run tracing fuel (.program p) w).core = some core ∧
      p.eval r.bridge fuel (r.start tracing w) = .error (.fault fault) core ∧
      fault.failure core.current core.calls = .ok failure := by
  have hrun : r.run tracing fuel (.program p) w =
      r.evaluate tracing fuel (.ok p) (r.bridge.clear w) := rfl
  rw [hrun] at h ⊢
  unfold evaluate at h ⊢
  cases heval : p.eval r.bridge fuel (r.start tracing w) with
  | ok v c =>
    rw [show r.evaluation fuel (.ok p) (Core.fresh _ _ _) = .ok v c from heval] at h
    cases h
  | error e c =>
    rw [show r.evaluation fuel (.ok p) (Core.fresh _ _ _) = .error e c from heval] at h ⊢
    cases e with
    | outOfFuel => cases h
    | fault f =>
      refine ⟨c, f, rfl, rfl, ?_⟩
      have hending : ending f c.current c.calls = .failed failure := h
      unfold ending at hending
      cases hf : f.failure c.current c.calls with
      | ok reported =>
        rw [hf] at hending
        cases hending
        rfl
      | error m =>
        rw [hf] at hending
        cases hending

/-- What is reported of a fault: its kind, its place if it has one, and this in front of the
message. -/
theorem reported_eq {fault : Fault} {current : Option Node} {calls : List CallEntry}
    {failure : Failure} (h : fault.failure current calls = .ok failure) :
    failure.kind = fault.kind ∧ failure.location = (fault.reportedAt current).positioned? ∧
      failure.message = (fault.reportedAt current).locate fault.said := by
  simp only [Fault.failure] at h
  split at h
  · cases h
    exact ⟨rfl, rfl, rfl⟩
  · cases h

/-- **Where a failure is located**, which ended some turns and left a core behind. -/
inductive Located (b : Bridge V W) (tree : List Node) (ts : List (Turn V W)) (core : Core V W)
    (fault : Fault) (failure : Failure) : Prop
  /-- At the node that was being evaluated, which is to blame. -/
  | blamed {n : Node} : core.current = some n → n.Occurs tree → Blamed b ts core n fault →
      failure.location = some n.place →
      failure.message = "in " ++ n.place.text ++ ": " ++ fault.said →
      Located b tree ts core fault failure
  /-- Where the surroundings put it, when they raised it as a failure of the program; nowhere if
  they did not put it anywhere. -/
  | given {asked : Option String} {cause : Cause} {place : Place} : fault = .raised cause place →
      place.isPositioned = true ∨ cause.isArity = false → RaisedLast b ts asked fault →
      failure.location = place.positioned? → failure.message = place.locate fault.said →
      Located b tree ts core fault failure
  /-- At the innermost open call, when the surroundings refused a test for a number of arguments;
  nowhere if no call is open. -/
  | tested {title : String} {got : Int} {want : Want} {place : Place} :
      place.isPositioned = false → RaisedLast b ts none (.raised (.arity title got want) place) →
      failure.kind = "ArityMismatch" →
      failure.location = core.calls.head?.map CallEntry.site →
      Located b tree ts core fault failure

/-- In surroundings that know nothing of places, what is not located at the node being evaluated is
not located at all, and is no wrong number of arguments. -/
theorem Located.of_isUnplaced {b : Bridge V W} {tree : List Node} {ts : List (Turn V W)}
    {core : Core V W} {fault : Fault} {failure : Failure}
    (h : Located b tree ts core fault failure) (hb : b.IsUnplaced) :
    (failure.location = none ∧ fault.isArity = false) ∨
      ∃ n, core.current = some n ∧ n.Occurs tree ∧ failure.location = some n.place := by
  cases h with
  | blamed hcurrent hn _ hlocation => exact .inr ⟨_, hcurrent, hn, hlocation⟩
  | @given asked cause place hfault hstays hlast hlocation _ =>
    subst hfault
    have hpos : place.isPositioned = false := hlast.isPositioned hb
    have harity : cause.isArity = false := hstays.resolve_left (by simp [hpos])
    exact .inl ⟨hlocation.trans (if_neg (by simp [hpos])), harity⟩
  | tested _ hlast => exact absurd (hlast.not_isArity hb) (by simp [Fault.isArity, Cause.isArity])

/-- **The law of places.** A run of a plain program that fails ends in a fault, and this is located
at the node that was being evaluated, which is a node of the program and to blame; or the
surroundings raised it as a failure of the program, and it is located where they put it; or they
refused a test for a number of arguments, and it is located at the innermost call that is open. In
surroundings that know nothing of places only the first is left, and failures that they state, which
are not located. -/
theorem failure_located (hp : p.IsPlain) {failure : Failure}
    (h : (r.run tracing fuel (.program p) w).ending = .failed failure) :
    ∃ core fault, (r.run tracing fuel (.program p) w).core = some core ∧
      p.eval r.bridge fuel (r.start tracing w) = .error (.fault fault) core ∧
      failure.kind = fault.kind ∧
      Located r.bridge p.body (p.turns r.bridge fuel (r.start tracing w)) core fault failure ∧
      (r.bridge.IsUnplaced → (failure.location = none ∧ fault.isArity = false) ∨
        ∃ n, core.current = some n ∧ n.Occurs p.body ∧ failure.location = some n.place) := by
  obtain ⟨core, fault, hcore, heval, hreport⟩ := fault_of_failed r tracing fuel p w h
  obtain ⟨hkind, hlocation, hmessage⟩ := reported_eq hreport
  have hcourse := p.eval_follows r.bridge fuel (r.start tracing w)
  rw [heval] at hcourse
  have hstart : (r.start tracing w).InTree p.body := fun _ _ hf => nomatch hf
  obtain ⟨-, hsettled⟩ := Course.settled (fun n hn => (hp n hn).isReportable) hcourse
    (fun n hn => .top hn) hstart
  have hfault : Settled r.bridge p.body (p.turns r.bridge fuel (r.start tracing w))
      (r.start tracing w) core fault := hsettled fault rfl
  have hlocated : Located r.bridge p.body (p.turns r.bridge fuel (r.start tracing w)) core fault
      failure := by
    cases hfault with
    | @blamed n _ hcurrent hn hblamed =>
      have hplace := (hp n hn).isReportable.isPositioned
      have hat : fault.reportedAt core.current = n.place := by
        rw [hcurrent]
        cases hblamed <;> rfl
      rw [hat] at hlocation hmessage
      exact .blamed hcurrent hn hblamed (hlocation.trans (if_pos hplace))
        (hmessage.trans (if_pos hplace))
    | given hstays hlast => exact .given rfl hstays hlast hlocation hmessage
    | test hplace hlast hcalls =>
      refine .tested hplace hlast hkind (hlocation.trans ?_)
      rw [hcalls]
      exact if_neg (by simp [Fault.reportedAt, hplace])
    | enclosing hplace hlast hhead hsite =>
      refine .tested hplace hlast hkind (hlocation.trans ?_)
      rw [hhead]
      exact if_pos hsite
  exact ⟨core, fault, hcore, heval, hkind, hlocated, hlocated.of_isUnplaced⟩

/-- Lines of a file. -/
def lapsePlace (line : Int) : Place := ⟨.str "lapse", .int line⟩

/-- A function that calls itself without its argument, and a call of it. -/
def lapse : Program :=
  ⟨"lapse", [
    .define (lapsePlace 1) "f" ["x"] [.call (lapsePlace 2) "f" []],
    .call (lapsePlace 3) "f" [.literal (lapsePlace 3) (.int 1)]]⟩

theorem lapsePlace_isPlain {line : Int} (h : Decimal.isTooLong line = false) :
    (lapsePlace line).IsPlain :=
  ⟨.inr ⟨_, rfl⟩, line, rfl, h⟩

theorem lapse_isPlain : lapse.IsPlain := by
  have hnodes (n : Node) (hn : n.Occurs lapse.body) :
      n ∈ lapse.body ++ lapse.body.flatMap Node.children := by
    induction hn with
    | top h => exact List.mem_append_left _ h
    | child _ hm ih =>
      simp only [lapse, Node.children, Node.parts, List.flatMap_cons, List.flatMap_nil,
        List.cons_append, List.nil_append, List.mem_cons, List.not_mem_nil, or_false] at ih
      rcases ih with rfl | rfl | rfl | rfl <;> simp_all [lapse, Node.children, Node.parts]
  intro n hn
  have hmem := hnodes n hn
  simp only [lapse, Node.children, Node.parts, List.flatMap_cons, List.flatMap_nil,
    List.cons_append, List.nil_append, List.mem_cons, List.not_mem_nil, or_false] at hmem
  rcases hmem with rfl | rfl | rfl | rfl <;> exact lapsePlace_isPlain (by decide +kernel)

theorem failure_located_of_lapse :
    let run := (Runner.mk Bridges.reflective "lapse" 64).run .off 6 (.program lapse)
      (World.start .standard "")
    ∃ failure core n, run.ending = .failed failure ∧ run.core = some core ∧
      core.current = some n ∧ n.Occurs lapse.body ∧ failure.location = some n.place := by
  intro run
  have hfails : run.ending.failure?.map Failure.kind = some "ArityMismatch" := by decide +kernel
  obtain ⟨failure, hfailure, hnamed⟩ := Option.map_eq_some_iff.mp hfails
  have hending : run.ending = .failed failure := Ending.failure?_eq_some_iff.mp hfailure
  obtain ⟨core, fault, hcore, -, hkind, -, hlaw⟩ := failure_located
    (Runner.mk Bridges.reflective "lapse" 64) .off 6 lapse (World.start .standard "")
    lapse_isPlain hending
  rcases hlaw Bridges.reflective_isUnplaced with ⟨-, harity⟩ | ⟨n, hcurrent, hn, hlocation⟩
  · -- a wrong number of arguments is never left without a place
    rw [hkind] at hnamed
    cases fault with
    | host m => simp [Fault.kind] at hnamed
    | raised cause place =>
      rw [Fault.kind] at hnamed
      cases cause <;> simp_all [Cause.title, Cause.isArity, Fault.isArity]
  · exact ⟨failure, core, n, hending, hcore, hcurrent, hn, hlocation⟩

/-- The failure that some surroundings state, at a place of their own. -/
def refusal : Fault := .raised (.stated (.str "not now")) ⟨.str "host", .int 99⟩

/-- Surroundings whose routines all fail like this. -/
def opinionated : Bridge Value World :=
  { Bridges.reflective with invoke := fun _ _ _ _ => throw refusal }

/-- A call of a routine. -/
def request : Node := .call (lapsePlace 1) "puts" []

/-- **A failure that is not located at the node being evaluated**: what is reported is the place
that the surroundings gave. -/
theorem failure_misplaced :
    let run := (Runner.mk opinionated "lapse" 64).run .off 3 (.program ⟨"lapse", [request]⟩)
      (World.start .standard "")
    Program.IsPlain ⟨"lapse", [request]⟩ ∧ ∃ failure core, run.ending = .failed failure ∧
      failure.kind = "IntpError" ∧ failure.message = "in host:99: not now" ∧
      failure.location = some ⟨.str "host", .int 99⟩ ∧ run.core = some core ∧
      core.current = some request ∧ request.place = lapsePlace 1 := by
  intro run
  have hplain : Program.IsPlain ⟨"lapse", [request]⟩ := by
    intro n hn
    have hnode : n = request := by
      induction hn with
      | top h => simpa using h
      | child _ hm ih => simp [ih, request, Node.children, Node.parts] at hm
    rw [hnode]
    exact lapsePlace_isPlain (by decide +kernel)
  let r := Runner.mk opinionated "lapse" 64
  let core := (r.start .off (World.start .standard "")).visited request
  have heval : Program.eval r.bridge 3 ⟨"lapse", [request]⟩
      (r.start .off (World.start .standard "")) = .error (.fault refusal) core := rfl
  have hcurrent : core.current = some request := rfl
  have hcalls : core.calls = [] := rfl
  have hreport : refusal.failure core.current core.calls =
      .ok ⟨"IntpError", "in host:99: not now", some ⟨.str "host", .int 99⟩, []⟩ := by
    rw [hcurrent, hcalls, Fault.failure, if_pos (by decide +kernel)]
    rfl
  obtain ⟨hending, hcore⟩ := failed_of_fault heval hreport
  exact ⟨hplain, _, core, hending, rfl, rfl, rfl, hcore, hcurrent, rfl⟩

end Runner

end Treewalk
