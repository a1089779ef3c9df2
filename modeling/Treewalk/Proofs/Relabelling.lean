import Treewalk.Proofs.JsonDocument
import Treewalk.Proofs.Location

/-!
# Programs with other labels

The file and the line of a node are whatever its document says, so they may be lists and mappings,
and these may have labels. Nothing that a program does depends on them. The evaluator looks at a
place in two ways: it asks whether there is a line, and it writes the place down. So let two
programs be the same but for the labels in their places, and let these places be written alike
(`Treewalk.Place.Relabelled`, `Treewalk.Node.Relabelled`). Then their evaluations go side by side:
the frames, the values and the surroundings are the same, and the rest of the cores is the same but
for labels (`Treewalk.Core.Relabelled`).

Every construct of the evaluator keeps this. It is said once for computations that follow one
another (`Treewalk.Core.Relabels.bind`), and then for each of the constructs.

* **`Treewalk.Core.Relabels.eval`**: the evaluation of a node does not depend on its labels.
* **`Treewalk.Runner.run_relabelled`**: neither does a run, apart from the labels in the places that
  it leaves behind.
-/

namespace Treewalk

open Treewalk.Core

variable {V W α β : Type}

namespace Document

/-- What is nil is so without its labels. -/
theorem isNil_unlabelled (d : Document) : d.unlabelled.isNil = d.isNil := by
  cases d <;> rfl

mutual

theorem hasHugeInt_unlabelled (d : Document) : d.unlabelled.hasHugeInt = d.hasHugeInt := by
  match d with
  | .list _ items => exact anyHuge_unlabelledItems items
  | .mapping _ entries => exact anyHugeEntry_unlabelledEntries entries
  | .literal _ | .str _ | .date _ _ | .moment _ _ | .back _ _ => rfl

theorem anyHuge_unlabelledItems (items : List Document) :
    anyHuge (unlabelledItems items) = anyHuge items := by
  match items with
  | [] => rfl
  | d :: rest => exact congrArg₂ or (hasHugeInt_unlabelled d) (anyHuge_unlabelledItems rest)

theorem anyHugeEntry_unlabelledEntries (entries : List (Document × Document)) :
    anyHugeEntry (unlabelledEntries entries) = anyHugeEntry entries := by
  match entries with
  | [] => rfl
  | (k, v) :: rest =>
    exact congrArg₂ or (congrArg₂ or (hasHugeInt_unlabelled k) (hasHugeInt_unlabelled v))
      (anyHugeEntry_unlabelledEntries rest)

end

end Document

/-! ### Places, nodes and faults -/

namespace Place

/-- A place without labels. -/
def unlabelled (p : Place) : Place := ⟨p.file.unlabelled, p.line.unlabelled⟩

/-- **The same place with other labels.** It is written in the same way. -/
structure Relabelled (p q : Place) : Prop where
  unlabelled_eq : q.unlabelled = p.unlabelled
  text_eq : q.text = p.text

namespace Relabelled

variable {p q : Place}

theorem refl (p : Place) : p.Relabelled p := ⟨rfl, rfl⟩

/-- A place has a line if its counterpart has one. -/
theorem isPositioned_eq (h : p.Relabelled q) : q.isPositioned = p.isPositioned := by
  have hline : q.line.unlabelled = p.line.unlabelled := congrArg Place.line h.unlabelled_eq
  rw [isPositioned, isPositioned, ← Document.isNil_unlabelled, hline, Document.isNil_unlabelled]

theorem isWritable_eq (h : p.Relabelled q) : q.isWritable = p.isWritable := by
  have hfile : q.file.unlabelled = p.file.unlabelled := congrArg Place.file h.unlabelled_eq
  have hline : q.line.unlabelled = p.line.unlabelled := congrArg Place.line h.unlabelled_eq
  rw [isWritable, isWritable, h.isPositioned_eq, ← Document.hasHugeInt_unlabelled q.file, hfile,
    ← Document.hasHugeInt_unlabelled q.line, hline, Document.hasHugeInt_unlabelled,
    Document.hasHugeInt_unlabelled]

/-- Both stand for the same place in a report. -/
theorem locate_eq (h : p.Relabelled q) (message : String) :
    q.locate message = p.locate message := by
  rw [locate, locate, h.isPositioned_eq, h.text_eq]

end Relabelled

end Place

/-- **The same node with other labels**: its place has them, and so have those of its parts. -/
inductive Node.Relabelled : Node → Node → Prop
  /-- A literal has no parts. -/
  | literal {p q : Place} (v : Literal) : p.Relabelled q → Relabelled (.literal p v) (.literal q v)
  /-- Neither has a text. -/
  | string {p q : Place} (s : String) : p.Relabelled q → Relabelled (.string p s) (.string q s)
  /-- Neither has a bare name. -/
  | var {p q : Place} (name : String) : p.Relabelled q → Relabelled (.var p name) (.var q name)
  /-- An assignment has its value. -/
  | assign {p q : Place} (name : String) {value value' : Node} : p.Relabelled q →
      Relabelled value value' → Relabelled (.assign p name value) (.assign q name value')
  /-- A condition has its test and its branches. -/
  | cond {p q : Place} {test test' : Node} {thenBody thenBody' : List Node}
      {elseBody elseBody' : Option (List Node)} : p.Relabelled q → Relabelled test test' →
      List.Forall₂ Relabelled thenBody thenBody' →
      Option.Rel (List.Forall₂ Relabelled) elseBody elseBody' →
      Relabelled (.cond p test thenBody elseBody) (.cond q test' thenBody' elseBody')
  /-- A loop has its test and its body. -/
  | loop {p q : Place} {test test' : Node} {body body' : List Node} : p.Relabelled q →
      Relabelled test test' → List.Forall₂ Relabelled body body' →
      Relabelled (.loop p test body) (.loop q test' body')
  /-- A definition has its body. -/
  | define {p q : Place} (name : String) (params : List String) {body body' : List Node} :
      p.Relabelled q → List.Forall₂ Relabelled body body' →
      Relabelled (.define p name params body) (.define q name params body')
  /-- A call has its arguments. -/
  | call {p q : Place} (name : String) {args args' : List Node} : p.Relabelled q →
      List.Forall₂ Relabelled args args' → Relabelled (.call p name args) (.call q name args')

theorem Node.Relabelled.place {n n' : Node} (h : n.Relabelled n') :
    n.place.Relabelled n'.place := by
  cases h <;> assumption

/-- The same function with other labels. -/
structure Function.Relabelled (f g : Function) : Prop where
  name_eq : g.name = f.name
  params_eq : g.params = f.params
  body : List.Forall₂ Node.Relabelled f.body g.body
  place : f.place.Relabelled g.place

/-- The same call with other labels. -/
structure CallEntry.Relabelled (e e' : CallEntry) : Prop where
  name_eq : e'.name = e.name
  site : e.site.Relabelled e'.site

namespace Fault

/-- **The same fault with other labels** in its place. -/
inductive Relabelled : Fault → Fault → Prop
  /-- A fault of the program, with one cause. -/
  | raised {p q : Place} (cause : Cause) : p.Relabelled q →
      Relabelled (.raised cause p) (.raised cause q)
  /-- A mishap has no place. -/
  | host (m : Mishap) : Relabelled (.host m) (.host m)

namespace Relabelled

variable {f g : Fault} {p q : Place}

theorem refl (f : Fault) : f.Relabelled f := by
  cases f with
  | raised cause p => exact .raised cause (.refl p)
  | host m => exact .host m

theorem raise (cause : Cause) (h : p.Relabelled q) :
    (Fault.raise cause p).Relabelled (Fault.raise cause q) := by
  unfold Fault.raise
  rw [h.isWritable_eq]
  split
  · exact .raised cause h
  · exact .host _

theorem isPositioned_eq (hf : f.Relabelled g) : g.isPositioned = f.isPositioned := by
  cases hf with
  | raised cause hold => exact hold.isPositioned_eq
  | host m => rfl

theorem relocated (hf : f.Relabelled g) (h : p.Relabelled q) :
    (f.relocated p).Relabelled (g.relocated q) := by
  cases hf with
  | raised cause hold =>
    cases cause with
    | arity name got want => exact .raise _ h
    | _ => exact .raised _ hold
  | host m => exact .host m

/-- Both are moved, or neither is. -/
theorem movedTo (hf : f.Relabelled g) (h : p.Relabelled q) :
    (f.movedTo p).Relabelled (g.movedTo q) := by
  unfold Fault.movedTo
  rw [hf.isPositioned_eq]
  split
  · exact hf
  · exact hf.relocated h

end Relabelled

end Fault

/-- The same halt with other labels. -/
inductive Halt.Relabelled : Halt → Halt → Prop
  | fault {f g : Fault} : f.Relabelled g → Relabelled (.fault f) (.fault g)
  | outOfFuel : Relabelled .outOfFuel .outOfFuel

/-! ### Cores -/

namespace Core

/-- **The same core with other labels.** The frames, the values in them and the surroundings are the
same. -/
structure Relabelled (c d : Core V W) : Prop where
  maxDepth_eq : d.maxDepth = c.maxDepth
  functions : List.Forall₂ (fun e e' => e'.1 = e.1 ∧ Function.Relabelled e.2 e'.2) c.functions
    d.functions
  frame_eq : d.frame = c.frame
  below_eq : d.below = c.below
  calls : List.Forall₂ CallEntry.Relabelled c.calls d.calls
  current : Option.Rel Node.Relabelled c.current d.current
  tracing_eq : d.tracing = c.tracing
  trace_eq : d.trace = c.trace
  world_eq : d.world = c.world

namespace Relabelled

variable {c d : Core V W}

theorem fresh (maxDepth : Int) (tracing : Tracing) (w : W) :
    Relabelled (Core.fresh maxDepth tracing w : Core V W) (Core.fresh maxDepth tracing w) :=
  ⟨rfl, .nil, rfl, rfl, .nil, .none, rfl, rfl, rfl⟩

theorem depth_eq (h : Relabelled c d) : d.depth = c.depth := by
  rw [depth, depth, h.below_eq]

theorem activation_eq (h : Relabelled c d) : d.activation = c.activation := by
  rw [activation, activation, h.frame_eq, h.depth_eq]

/-- There is room for a frame in both cores or in none. -/
theorem full_iff (h : Relabelled c d) :
    d.maxDepth ≤ (d.depth : Int) ↔ c.maxDepth ≤ (c.depth : Int) := by
  rw [h.maxDepth_eq, h.depth_eq]

/-- Both know a function, or neither does. -/
theorem lookup (h : Relabelled c d) (name : String) :
    Option.Rel Function.Relabelled (c.functions.lookup name) (d.functions.lookup name) := by
  have hfunctions := h.functions
  generalize c.functions = fs at hfunctions
  generalize d.functions = gs at hfunctions
  induction hfunctions with
  | nil => exact .none
  | @cons e e' _ _ hhead _ ih =>
    rw [List.lookup_cons, List.lookup_cons, hhead.1]
    split
    · exact .some hhead.2
    · exact ih

theorem noted (h : Relabelled c d) (line : TraceLine) :
    Relabelled (c.noted line) (d.noted line) := by
  unfold Core.noted
  by_cases hon : c.tracing = .on
  · rw [if_pos hon, if_pos (h.tracing_eq.trans hon)]
    exact { h with trace_eq := congrArg (line :: ·) h.trace_eq }
  · rw [if_neg hon, if_neg fun hon' => hon (h.tracing_eq.symm.trans hon')]
    exact h

theorem visited (h : Relabelled c d) {n n' : Node} (hn : n.Relabelled n') :
    Relabelled (c.visited n) (d.visited n') := { h with current := .some hn }

theorem inWorld (h : Relabelled c d) (w : W) : Relabelled (c.inWorld w) (d.inWorld w) :=
  { h with world_eq := rfl }

theorem assigned (h : Relabelled c d) (name : String) (v : V) :
    Relabelled (c.assigned name v) (d.assigned name v) :=
  { h with frame_eq := congrArg (·.set name v) h.frame_eq }

theorem bound (h : Relabelled c d) (params : List String) (args : List V) :
    Relabelled (c.bound params args) (d.bound params args) :=
  { h with frame_eq := congrArg (·.setAll params args) h.frame_eq }

/-- A function is registered with the place of its definition, which may differ. -/
theorem defined (h : Relabelled c d) (name : String) {f g : Function} (hfg : f.Relabelled g) :
    Relabelled (c.defined name f) (d.defined name g) := by
  have hnoted := h.noted (.define name f.params)
  rw [Core.defined, Core.defined, hfg.params_eq]
  exact { hnoted with
    functions := List.rel_append hnoted.functions
      (List.Forall₂.cons (⟨rfl, hfg⟩ : name = name ∧ Function.Relabelled f g) .nil) }

/-- So may the place of a call. -/
theorem entered (h : Relabelled c d) (name : String) {p q : Place} (hp : p.Relabelled q) :
    Relabelled (c.entered name (some p)) (d.entered name (some q)) := by
  rw [Core.entered, Core.entered, h.depth_eq]
  refine Relabelled.noted ?_ _
  exact { h with
    frame_eq := rfl
    below_eq := by rw [pushed_below, pushed_below, h.frame_eq, h.below_eq]
    calls := .cons ⟨rfl, hp⟩ h.calls }

theorem left (h : Relabelled c d) : Relabelled c.left d.left := by
  unfold Core.left
  rw [h.below_eq]
  split
  · exact h
  · rw [h.frame_eq]
    refine Relabelled.noted ?_ _
    have hcalls : List.Forall₂ CallEntry.Relabelled c.calls.tail d.calls.tail := by
      simpa using List.forall₂_drop 1 h.calls
    exact { h with frame_eq := rfl, below_eq := rfl, calls := hcalls }

end Relabelled

/-! ### Computations -/

/-- **The same result with other labels**: the same value, or a halt that is the same. -/
inductive RelabelledResult : EStateM.Result Halt (Core V W) α →
    EStateM.Result Halt (Core V W) α → Prop
  | ok {c d : Core V W} (a : α) : c.Relabelled d → RelabelledResult (.ok a c) (.ok a d)
  | error {c d : Core V W} {h h' : Halt} : h.Relabelled h' → c.Relabelled d →
      RelabelledResult (.error h c) (.error h' d)

/-- **A computation does the same as another**, whatever the labels are. -/
def Relabels (x x' : Eval V W α) : Prop :=
  ∀ c d : Core V W, c.Relabelled d → RelabelledResult (x c) (x' d)

namespace Relabels

variable {x x' : Eval V W α} {f f' : α → Eval V W β} {p q : Place}

theorem pure (a : α) : Relabels (Pure.pure a : Eval V W α) (Pure.pure a) :=
  fun _ _ hc => .ok a hc

/-- One computation after another. -/
theorem bind (hx : Relabels x x') (hf : ∀ a, Relabels (f a) (f' a)) :
    Relabels (x >>= f) (x' >>= f') := by
  intro c d hc
  have hresult := hx c d hc
  generalize hr : x c = r at hresult
  generalize hr' : x' d = r' at hresult
  cases hresult with
  | ok a hc =>
    rw [bind_of_ok hr, bind_of_ok hr']
    exact hf a _ _ hc
  | error hh hc =>
    rw [bind_of_error hr, bind_of_error hr']
    exact .error hh hc

/-- The core is looked at. -/
theorem get {f f' : Core V W → Eval V W α}
    (h : ∀ c d : Core V W, c.Relabelled d → RelabelledResult (f c c) (f' d d)) :
    Relabels (MonadState.get >>= f) (MonadState.get >>= f') := by
  intro c d hc
  rw [bind_of_ok (get_apply c), bind_of_ok (get_apply d)]
  exact h c d hc

theorem raise (cause : Cause) (h : p.Relabelled q) :
    Relabels (Core.raise cause p : Eval V W α) (Core.raise cause q) :=
  fun _ _ hc => .error (.fault (.raise cause h)) hc

theorem note (line : TraceLine) : Relabels (Core.note line : Eval V W Unit) (Core.note line) :=
  fun _ _ hc => .ok () (hc.noted line)

theorem visit {n n' : Node} (h : n.Relabelled n') :
    Relabels (Core.visit n : Eval V W Unit) (Core.visit n') :=
  fun _ _ hc => .ok () (hc.visited h)

theorem assign (name : String) (v : V) :
    Relabels (Core.assign name v : Eval V W Unit) (Core.assign name v) :=
  fun _ _ hc => .ok () (hc.assigned name v)

theorem make (x : W → V × W) : Relabels (Core.make x) (Core.make x) := by
  intro c d hc
  rw [make_apply, make_apply, hc.world_eq]
  exact .ok _ (hc.inWorld _)

/-- What the surroundings answer has nothing to do with labels. -/
theorem ask (x : Ask W α) : Relabels (Core.ask x : Eval V W α) (Core.ask x) := by
  intro c d hc
  unfold Core.ask
  rw [hc.world_eq]
  split
  · exact .ok _ (hc.inWorld _)
  · exact .error (.fault (.refl _)) (hc.inWorld _)

theorem define (name : String) {f g : Function} (hfg : f.Relabelled g) (h : p.Relabelled q) :
    Relabels (Core.define name f p : Eval V W Unit) (Core.define name g q) := by
  intro c d hc
  have hlookup := hc.lookup name
  generalize hf : c.functions.lookup name = r at hlookup
  generalize hg : d.functions.lookup name = r' at hlookup
  cases hlookup with
  | none =>
    rw [define_of_new hf, define_of_new hg]
    exact .ok () (hc.defined name hfg)
  | some =>
    rw [define_of_known (by rw [hf]; rfl), define_of_known (by rw [hg]; rfl)]
    exact .error (.fault (.raise _ h)) hc

theorem enter (name : String) (h : p.Relabelled q) :
    Relabels (Core.enter name (some p) : Eval V W Unit) (Core.enter name (some q)) := by
  intro c d hc
  by_cases hfull : c.maxDepth ≤ (c.depth : Int)
  · rw [enter_of_full hfull, enter_of_full (hc.full_iff.mpr hfull)]
    exact .error (.fault (.raise _ h)) hc
  · rw [enter_of_room hfull, enter_of_room fun hfull' => hfull (hc.full_iff.mp hfull')]
    exact .ok () (hc.entered name h)

theorem leave : Relabels (Core.leave : Eval V W Unit) Core.leave := by
  intro c d hc
  rw [leave_apply, leave_apply]
  exact .ok () hc.left

theorem located {x x' : Eval V W V} (hx : Relabels x x') (h : p.Relabelled q) :
    Relabels (Core.located p x) (Core.located q x') := by
  intro c d hc
  have hresult := hx c d hc
  unfold Core.located
  generalize x c = r at hresult
  generalize x' d = r' at hresult
  cases hresult with
  | ok a hc => exact .ok a hc
  | error hh hc =>
    cases hh with
    | fault hf => exact .error (.fault (hf.movedTo h)) hc
    | outOfFuel => exact .error .outOfFuel hc

/-! ### Calls -/

section Calls

variable {b : Bridge V W} {eval : Node → Eval V W V}
  (ih : ∀ n n' : Node, n.Relabelled n' → Relabels (eval n) (eval n'))
include ih

theorem exec {ns ns' : List Node} (h : List.Forall₂ Node.Relabelled ns ns') :
    ∀ last, Relabels (Core.exec eval last ns) (Core.exec eval last ns') := by
  induction h with
  | nil => exact fun last => .pure last
  | cons hhead _ ihrest => exact fun last => (ih _ _ hhead).bind ihrest

theorem evalAll {ns ns' : List Node} (h : List.Forall₂ Node.Relabelled ns ns') :
    Relabels (Core.evalAll eval ns) (Core.evalAll eval ns') := by
  induction h with
  | nil => exact .pure []
  | cons hhead _ ihrest => exact (ih _ _ hhead).bind fun v => ihrest.bind fun vs => .pure (v :: vs)

theorem runBody {f g : Function} (h : f.Relabelled g) (args : List V) :
    Relabels (Core.runBody b eval f args) (Core.runBody b eval g args) := by
  intro c d hc
  by_cases hargs : args.length = f.params.length
  · rw [runBody_of_eq hargs, runBody_of_eq (by rw [h.params_eq, hargs]), h.params_eq]
    exact exec ih h.body b.nil _ _ (hc.bound f.params args)
  · rw [runBody_of_ne hargs, runBody_of_ne (by rwa [h.params_eq]), h.params_eq, hc.frame_eq]
    exact .error (.fault (.refl _)) hc

theorem callFunction (name : String) (args : List V) {p q : Place} (h : p.Relabelled q) :
    Relabels (Core.callFunction b eval name args (some p))
      (Core.callFunction b eval name args (some q)) := by
  intro c d hc
  have hlookup := hc.lookup name
  generalize hf : c.functions.lookup name = r at hlookup
  generalize hg : d.functions.lookup name = r' at hlookup
  cases hlookup with
  | none =>
    rw [callFunction_of_none hf, callFunction_of_none hg]
    exact .ok none hc
  | some hfg =>
    rw [callFunction_of_some hf, callFunction_of_some hg]
    exact (((Relabels.enter name h).bind fun _ => (runBody ih hfg args).bind fun v =>
      Relabels.leave.bind fun _ => .pure (some v))) _ _ (hc.noted _)

omit ih in
/-- The second and the third tier ask the surroundings. -/
theorem offer (line : W → TraceLine) (target : V) (name : String) (args : List V) :
    Relabels (Core.offer b line target name args) (Core.offer b line target name args) := by
  refine (ask _).bind fun known => ?_
  split
  · refine .get fun c d hc => ?_
    rw [hc.world_eq]
    refine (note (line c.world)).bind (fun _ => .get fun c d hc => ?_) c d hc
    rw [hc.activation_eq]
    exact ((ask _).bind fun v => .pure (some v)) c d hc
  · exact .pure none

/-- A call is resolved by names and values, which are the same. -/
theorem resolve (name : String) (args : List V) {p q : Place} (h : p.Relabelled q) :
    Relabels (Core.resolve b eval name args (some p)) (Core.resolve b eval name args (some q)) := by
  have henvironment : Relabels (callEnvironment b name args) (callEnvironment b name args) := by
    rw [callEnvironment_eq_offer]
    exact offer _ _ name args
  have hreceiver : Relabels (callReceiver b name args) (callReceiver b name args) := by
    cases args with
    | nil => exact .pure none
    | cons receiver rest =>
      rw [callReceiver_eq_offer]
      exact offer _ receiver name rest
  exact (callFunction ih name args h).bind fun
    | some v => .pure (some v)
    | none => henvironment.bind fun
      | some v => .pure (some v)
      | none => hreceiver

theorem call (name : String) (args : List V) {p q : Place} (h : p.Relabelled q) :
    Relabels (Core.call b eval name args (some p)) (Core.call b eval name args (some q)) :=
  (resolve ih name args h).bind fun
    | some v => .pure v
    | none => .raise _ h

theorem callBare (name : String) {p q : Place} (h : p.Relabelled q) :
    Relabels (Core.callBare b eval name p) (Core.callBare b eval name q) :=
  (resolve ih name [] h).bind fun
    | some v => .pure v
    | none => .raise _ h

end Calls

/-- **The evaluation of a node does not depend on its labels.** -/
theorem eval (b : Bridge V W) (fuel : Nat) : ∀ n n' : Node, n.Relabelled n' →
    Relabels (Treewalk.eval b fuel n) (Treewalk.eval b fuel n') := by
  induction fuel with
  | zero => exact fun _ _ _ _ _ hc => .error .outOfFuel hc
  | succ fuel ih =>
    intro n n' hn
    have hvisit := visit (V := V) (W := W) hn
    cases hn with
    | literal v hp => exact hvisit.bind fun _ => .pure (b.literal v)
    | string s hp => exact hvisit.bind fun _ => make (b.text s)
    | var name hp =>
      refine hvisit.bind fun _ => .get fun c d hc => ?_
      simp only [hc.frame_eq]
      cases c.frame.get? name with
      | some v => exact .ok v hc
      | none => exact located (callBare ih name hp) hp c d hc
    | assign name hp hvalue =>
      exact hvisit.bind fun _ => (ih _ _ hvalue).bind fun v =>
        (assign name v).bind fun _ => .pure v
    | cond hp htest hthen helse =>
      refine (ih _ _ htest).bind fun v => hvisit.bind fun _ =>
        (ask (b.truthy v)).bind fun truth => ?_
      cases truth with
      | true => exact exec ih hthen b.nil
      | false =>
        cases helse with
        | none => exact .pure b.nil
        | some helse => exact exec ih helse b.nil
    | loop hp htest hbody =>
      refine (ih _ _ htest).bind fun v => hvisit.bind fun _ =>
        (ask (b.truthy v)).bind fun truth => ?_
      cases truth with
      | true => exact (exec ih hbody b.nil).bind fun _ => ih _ _ (.loop hp htest hbody)
      | false => exact .pure b.nil
    | @define p q name params body body' hp hbody =>
      have hfunction : Function.Relabelled ⟨name, params, body, p⟩ ⟨name, params, body', q⟩ :=
        ⟨rfl, rfl, hbody, hp⟩
      exact hvisit.bind fun _ => (define name hfunction hp).bind fun _ => .pure b.nil
    | call name hp hargs =>
      exact (evalAll ih hargs).bind fun vs => hvisit.bind fun _ =>
        located (call ih name vs hp) hp

end Relabels

end Core

/-! ### What is left without labels -/

/-- A node without labels. -/
def Node.unlabelled (n : Node) : Node := n.mapPlace (fun _ place => place.unlabelled) .nowhere

/-- A function without labels. -/
def Function.unlabelled (f : Function) : Function :=
  { f with body := f.body.map Node.unlabelled, place := f.place.unlabelled }

/-- A call without labels. -/
def CallEntry.unlabelled (e : CallEntry) : CallEntry := { e with site := e.site.unlabelled }

/-- **A core without labels.** -/
def Core.unlabelled (c : Core V W) : Core V W :=
  { c with
    functions := c.functions.map fun e => (e.1, e.2.unlabelled)
    calls := c.calls.map CallEntry.unlabelled
    current := c.current.map Node.unlabelled }

/-- A failure without labels in its place. -/
def Failure.unlabelled (f : Failure) : Failure :=
  { f with location := f.location.map Place.unlabelled }

/-- An ending without labels. -/
def Ending.unlabelled : Ending V → Ending V
  | .failed f => .failed f.unlabelled
  | e => e

/-- **A run without labels**: which documents in its places are one object is not said. -/
def Run.unlabelled (run : Run V W) : Run V W :=
  { run with ending := run.ending.unlabelled, core := run.core.map Core.unlabelled }

/-- What is related one by one has the same images. -/
theorem map_eq_of_forall₂ {R : α → α → Prop} {f g : α → β} {xs ys : List α}
    (h : List.Forall₂ R xs ys) (hf : ∀ x ∈ xs, ∀ y, R x y → g y = f x) : ys.map g = xs.map f := by
  induction h with
  | nil => rfl
  | cons hhead _ ih =>
    rw [List.map_cons, List.map_cons, hf _ (by simp) _ hhead, ih fun x hx => hf x (by simp [hx])]

theorem Node.Relabelled.mapPlace_eq (n : Node) : ∀ {n' : Node}, n.Relabelled n' →
    ∀ around around', n'.mapPlace (fun _ place => place.unlabelled) around' =
      n.mapPlace (fun _ place => place.unlabelled) around := by
  induction n using Node.induction with
  | h n ih =>
    intro n' h around around'
    have hbody {ns ns' : List Node} (hns : List.Forall₂ Node.Relabelled ns ns')
        (hmem : ∀ m ∈ ns, m ∈ n.children) (x x' : Place) :
        mapPlaceAll (fun _ place => place.unlabelled) x' ns' =
          mapPlaceAll (fun _ place => place.unlabelled) x ns := by
      rw [mapPlaceAll_eq_map, mapPlaceAll_eq_map]
      exact map_eq_of_forall₂ hns fun m hm _ hrelabelled => ih m (hmem m hm) hrelabelled x x'
    cases h with
    | literal v hp => rw [mapPlace, mapPlace, hp.unlabelled_eq]
    | string s hp => rw [mapPlace, mapPlace, hp.unlabelled_eq]
    | var name hp => rw [mapPlace, mapPlace, hp.unlabelled_eq]
    | assign name hp hvalue =>
      rw [mapPlace, mapPlace, hp.unlabelled_eq, ih _ (by simp [children, parts]) hvalue]
    | cond hp htest hthen helse =>
      have htest' := ih _ (by simp [children, parts]) htest
      have hthen' := hbody hthen (by simp +contextual [children, parts])
      cases helse with
      | none => simp only [mapPlace, hp.unlabelled_eq]; rw [htest', hthen']
      | some helse =>
        have helse' := hbody helse (by simp +contextual [children, parts])
        simp only [mapPlace, hp.unlabelled_eq]; rw [htest', hthen', helse']
    | loop hp htest hloop =>
      rw [mapPlace, mapPlace, hp.unlabelled_eq, ih _ (by simp [children, parts]) htest,
        hbody hloop (by simp +contextual [children, parts])]
    | define name params hp hdefined =>
      rw [mapPlace, mapPlace, hp.unlabelled_eq, hbody hdefined fun _ hm => hm]
    | call name hp hargs =>
      rw [mapPlace, mapPlace, hp.unlabelled_eq, hbody hargs fun _ hm => hm]

theorem Node.Relabelled.unlabelled_eq {n n' : Node} (h : n.Relabelled n') :
    n'.unlabelled = n.unlabelled := mapPlace_eq n h _ _

theorem Function.Relabelled.unlabelled_eq {f g : Function} (h : f.Relabelled g) :
    g.unlabelled = f.unlabelled := by
  rw [Function.unlabelled, Function.unlabelled, h.name_eq, h.params_eq, h.place.unlabelled_eq,
    map_eq_of_forall₂ h.body fun _ _ _ hn => hn.unlabelled_eq]

theorem CallEntry.Relabelled.unlabelled_eq {e e' : CallEntry} (h : e.Relabelled e') :
    e'.unlabelled = e.unlabelled := by
  rw [CallEntry.unlabelled, CallEntry.unlabelled, h.name_eq, h.site.unlabelled_eq]

theorem CallEntry.Relabelled.text_eq {e e' : CallEntry} (h : e.Relabelled e') :
    e'.text = e.text := by
  rw [CallEntry.text, CallEntry.text, h.name_eq, h.site.isPositioned_eq, h.site.text_eq]

/-- **Cores that differ in labels are the same without them.** -/
theorem Core.Relabelled.unlabelled_eq {c d : Core V W} (h : c.Relabelled d) :
    d.unlabelled = c.unlabelled := by
  have hcurrent : d.current.map Node.unlabelled = c.current.map Node.unlabelled := by
    have hrel := h.current
    generalize c.current = n at hrel
    generalize d.current = n' at hrel
    cases hrel with
    | none => rfl
    | some hn => exact congrArg some hn.unlabelled_eq
  have hcalls : d.calls.map CallEntry.unlabelled = c.calls.map CallEntry.unlabelled :=
    map_eq_of_forall₂ h.calls fun _ _ _ he => he.unlabelled_eq
  have hfunctions : d.functions.map (fun e => (e.1, e.2.unlabelled)) =
      c.functions.map fun e => (e.1, e.2.unlabelled) :=
    map_eq_of_forall₂ h.functions fun _ _ _ he => Prod.ext he.1 he.2.unlabelled_eq
  simp only [unlabelled, hcurrent, hcalls, hfunctions, h.maxDepth_eq, h.frame_eq, h.below_eq,
    h.tracing_eq, h.trace_eq, h.world_eq]

/-! ### Runs -/

namespace Runner

/-- A report asks of a place only whether it has a line and how it is written. -/
theorem ending_relabelled {f g : Fault} {n n' : Option Node} {calls calls' : List CallEntry}
    (hf : f.Relabelled g) (hn : Option.Rel Node.Relabelled n n')
    (hcalls : List.Forall₂ CallEntry.Relabelled calls calls') :
    (ending g n' calls' : Ending V).unlabelled = (ending f n calls : Ending V).unlabelled := by
  have hplace : (f.reportedAt n).Relabelled (g.reportedAt n') := by
    cases hf with
    | raised cause hp => exact hp
    | host m =>
      cases hn with
      | none => exact .refl _
      | some hn => exact hn.place
  have hsaid : g.kind = f.kind ∧ g.said = f.said ∧ g.isWritable = f.isWritable := by
    cases hf with
    | raised | host => exact ⟨rfl, rfl, rfl⟩
  have hall : calls'.all (·.site.isWritable) = calls.all (·.site.isWritable) := by
    induction hcalls with
    | nil => rfl
    | cons he _ ih => rw [List.all_cons, List.all_cons, he.site.isWritable_eq, ih]
  have htexts : calls'.map CallEntry.text = calls.map CallEntry.text :=
    map_eq_of_forall₂ hcalls fun _ _ _ he => he.text_eq
  have hlocation : (g.reportedAt n').positioned?.map Place.unlabelled =
      (f.reportedAt n).positioned?.map Place.unlabelled := by
    rw [Place.positioned?, Place.positioned?, hplace.isPositioned_eq]
    split
    · exact congrArg some hplace.unlabelled_eq
    · rfl
  simp only [ending, Fault.failure, hsaid, hplace.isWritable_eq, hall, htexts, hplace.locate_eq]
  cases f.isWritable && (f.reportedAt n).isWritable && calls.all (·.site.isWritable) with
  | true => exact congrArg (fun l => Ending.failed ⟨_, _, l, _⟩) hlocation
  | false => rfl

variable (r : Runner V W) (tracing : Tracing) (fuel : Nat) {p p' : Program} (w : W)

/-- **The run of a program does not depend on its labels.** -/
theorem run_relabelled (h : List.Forall₂ Node.Relabelled p.body p'.body) :
    (r.run tracing fuel (.program p') w).unlabelled =
      (r.run tracing fuel (.program p) w).unlabelled := by
  have hresult := Relabels.exec (Relabels.eval r.bridge fuel) h r.bridge.nil _ _
    (.fresh r.maxDepth tracing (r.bridge.clear w))
  have hrun (p : Program) : p.eval r.bridge fuel (r.start tracing w) =
    exec (Treewalk.eval r.bridge fuel) r.bridge.nil p.body
      (Core.fresh r.maxDepth tracing (r.bridge.clear w)) := rfl
  rw [run_program, run_program, hrun, hrun]
  generalize exec (Treewalk.eval r.bridge fuel) r.bridge.nil p.body _ = result at hresult
  generalize exec (Treewalk.eval r.bridge fuel) r.bridge.nil p'.body _ = result' at hresult
  cases hresult with
  | ok v hc => simp only [Run.unlabelled, Option.map_some, hc.unlabelled_eq, hc.world_eq]
  | error hh hc =>
    cases hh with
    | fault hf =>
      simp only [Run.unlabelled, Option.map_some, hc.unlabelled_eq, hc.world_eq,
        ending_relabelled hf hc.current hc.calls]
    | outOfFuel => simp only [Run.unlabelled, Option.map_some, hc.unlabelled_eq, hc.world_eq]

end Runner

end Treewalk
