import Treewalk.Proofs.Finality
import Treewalk.Proofs.ReadBack

/-!
# Where a wrong number of arguments is reported

Nothing says where a wrong number of arguments was found when the fault is raised: a function only
knows its own name, and the surroundings know nothing of places. The call that could not be carried
out has to say it, and takes the fault over if this has no line yet. But a call may be without a
line itself, and so is the fault then when it leaves this call; so the next call further out takes
it over, and so on, until one of them has a line.

The node to blame is the one that was being evaluated (`Treewalk.Mismatched`), and what is reported
is the first line among those of the fault as it was raised, of this node, and of the calls that are
open, the innermost first. So a mismatch is reported at the node to blame if it has a line, and is
blamed on an enclosing call if it has none and one of these has.

* **`Treewalk.Course.mismatched`**: what is known of a wrong number of arguments along a course.
* **`Treewalk.Runner.mismatch_located`**: where it is reported.
* **`Treewalk.Runner.mismatch_misplaced`**: a call without a line, whose mismatch is blamed on the
  call around it.
-/

namespace Treewalk

open Treewalk.Core

variable {V W : Type}

/-! ### Moving a fault -/

namespace Fault

/-- The place that a fault was raised at, or moved to. -/
def place : Fault → Place
  | .raised _ place => place
  | .host _ => .nowhere

/-- A wrong number of arguments that was raised can be written. -/
theorem raise_of_isArity {cause : Cause} {place : Place} (h : (raise cause place).isArity = true) :
    raise cause place = .raised cause place := by
  unfold raise at h ⊢
  split
  · rfl
  · next hlong =>
    rw [if_neg hlong] at h
    cases h

theorem isArity_of_raise {cause : Cause} {place : Place} (h : (raise cause place).isArity = true) :
    cause.isArity = true := by
  rw [raise_of_isArity h] at h
  exact h

/-- Nothing else is called by this name in a report. -/
theorem isArity_of_kind {f : Fault} (h : f.kind = "ArityMismatch") : f.isArity = true := by
  have hother (title : String) (hne : title ≠ "ArityMismatch") : f.kind ≠ title :=
    fun heq => hne (heq.symm.trans h)
  cases f with
  | host m => exact absurd rfl (hother "EnvironmentFailure" (by decide))
  | raised cause place =>
    cases cause with
    | arity => rfl
    | stated | tooDeep => exact absurd rfl (hother "IntpError" (by decide))
    | conflict => exact absurd rfl (hother "DefinitionConflict" (by decide))
    | unresolved => exact absurd rfl (hother "UnresolvedCall" (by decide))
    | format => exact absurd rfl (hother "ProgramFormatError" (by decide))

/-- Only what is a wrong number of arguments comes out of a call as one. -/
theorem isArity_of_movedTo {f : Fault} {p : Place} (h : (f.movedTo p).isArity = true) :
    f.isArity = true := by
  by_contra hf
  rw [movedTo_of_not_isArity p (by simpa using hf)] at h
  exact hf h

/-- To move a fault to a place twice is to move it once. -/
theorem movedTo_movedTo (f : Fault) (p : Place) : (f.movedTo p).movedTo p = f.movedTo p := by
  by_cases hstays : f.isPositioned = true ∨ f.isArity = false
  · have honce : f.movedTo p = f := carried_eq_self hstays [p]
    rw [honce, honce]
  · obtain ⟨hpos, harity⟩ : f.isPositioned = false ∧ f.isArity = true := by simpa using hstays
    obtain ⟨name, got, want, place, rfl⟩ := exists_arity harity
    have hmoves {old : Place} (hold : old.isPositioned = false) :
        (raised (.arity name got want) old).movedTo p = raise (.arity name got want) p :=
      if_neg (by simpa [isPositioned] using hold)
    rw [hmoves hpos]
    by_cases hraise : (raise (.arity name got want) p).isArity = true
    · rw [raise_of_isArity hraise]
      -- it stands at the place already
      cases hp : p.isPositioned with
      | true => exact movedTo_of_isPositioned p hp
      | false => rw [hmoves hp, raise_of_isArity hraise]
    · exact movedTo_of_not_isArity p (by simpa using hraise)

/-- **Where a wrong number of arguments ends up**: at the first line among its own and those of the
calls that it passed. -/
theorem positioned?_carried {f : Fault} {sites : List Place}
    (h : (f.carried sites).isArity = true) (hf : f.isArity = true) :
    (f.carried sites).place.positioned? = (f.place :: sites).find? Place.isPositioned := by
  obtain ⟨name, got, want, place, rfl⟩ := exists_arity hf
  cases hplace : place.isPositioned with
  | true =>
    have hstays := carried_eq_self (f := raised (.arity name got want) place) (.inl hplace) sites
    rw [hstays, Fault.place, List.find?_cons_of_pos hplace]
    exact if_pos hplace
  | false =>
    rw [List.find?_cons_of_neg (by simp [Fault.place, hplace])]
    rw [carried_arity hplace] at h ⊢
    cases hfirst : sites.find? Place.isPositioned with
    | some p =>
      rw [hfirst] at h
      simp only [raise_of_isArity h]
      exact if_pos (List.find?_some hfirst)
    | none =>
      refine if_neg ?_
      have hlast : sites.getLastD place ∈ place :: sites := List.getLastD_mem_cons
      rcases List.mem_cons.mp hlast with hlast | hlast
      · rw [Fault.place, hlast, hplace]
        decide
      · exact List.find?_eq_none.mp hfirst _ hlast

end Fault

/-! ### Who is to blame -/

/-- Where a node makes a call from, if it is a call or a bare name. -/
def Node.callSite (n : Node) : List Place := if n.callee?.isSome then [n.place] else []

theorem Node.callSite_of_callee? {n : Node} {name : String} (h : n.callee? = some name) :
    n.callSite = [n.place] := by
  simp [callSite, h]

/-- **A node is to blame for a wrong number of arguments**, as it was raised: it ended some turns
and left a core behind. -/
inductive Mismatched (b : Bridge V W) (ts : List (Turn V W)) (c : Core V W) (n : Node) :
    Fault → Prop
  /-- The node calls a function of the program. The frame of the function is the active one, and
  nothing is bound in it. -/
  | function {name : String} {f : Function} {got : Nat} : n.callee? = some name →
      c.functions.lookup name = some f → got ≠ f.params.length → c.frame = ⟨name, []⟩ →
      c.calls.head?.map CallEntry.site = some n.place →
      Mismatched b ts c n (.raised (.arity name got (.exactly f.params.length)) .nowhere)
  /-- The node makes the surroundings refuse a number of arguments. -/
  | surroundings {asked : Option String} {title : String} {got : Int} {want : Want}
      {place : Place} : n.Asks asked →
      RaisedLast b ts asked (.raised (.arity title got want) place) →
      Mismatched b ts c n (.raised (.arity title got want) place)

namespace Mismatched

variable {b : Bridge V W} {ts : List (Turn V W)} {c : Core V W} {n : Node} {f : Fault}

theorem append (before : List (Turn V W)) (h : Mismatched b ts c n f) :
    Mismatched b (before ++ ts) c n f := by
  cases h with
  | function hn hf hgot hframe hsite => exact .function hn hf hgot hframe hsite
  | surroundings hn hlast => exact .surroundings hn (hlast.append before)

theorem isArity (h : Mismatched b ts c n f) : f.isArity = true := by
  cases h <;> rfl

/-- In surroundings that know nothing of places, the fault is raised without a line, by a call or a
bare name. -/
theorem of_isUnplaced (h : Mismatched b ts c n f) (hb : b.IsUnplaced) :
    n.callee?.isSome = true ∧ f.place.isPositioned = false := by
  cases h with
  | function hn => exact ⟨by simp [hn], rfl⟩
  | surroundings hn hlast =>
    obtain ⟨-, t, -, hraises⟩ := hlast
    cases hraises with
    | has hask => exact ⟨Option.isSome_iff_exists.mpr ⟨_, hn⟩, hb.has _ _ _ _ _ hask⟩
    | invoke hask => exact ⟨Option.isSome_iff_exists.mpr ⟨_, hn⟩, hb.invoke _ _ _ _ _ _ _ hask⟩
    | truthy hask =>
      exact absurd (hb.truthy _ _ _ _ hask).2 (by simp [Fault.isArity, Cause.isArity])

end Mismatched

/-- A wrong number of arguments, as it leaves what is carried out: some node of the tree is to blame
for it, and it has passed this node and the calls that were begun. -/
def Passed (b : Bridge V W) (tree : List Node) (ts : List (Turn V W)) (c c' : Core V W)
    (g : Fault) : Prop :=
  ∃ n f entries, c'.current = some n ∧ n.Occurs tree ∧ Mismatched b ts c' n f ∧
    c'.calls = entries ++ c.calls ∧ g = f.carried (n.callSite ++ entries.map CallEntry.site)

/-- **Along a course a wrong number of arguments passes** the node that is to blame for it, and then
the calls around, the innermost first. -/
theorem Course.mismatched {b : Bridge V W} {tree : List Node} {s : Subject V} {c c' : Core V W}
    {ts : List (Turn V W)} {o : Option Halt} (h : Course b s c ts o c') (hs : s.InTree tree)
    (hc : c.InTree tree) :
    c'.InTree tree ∧ ∀ f, o = some (.fault f) → (s.moved f).isArity = true →
      Passed b tree ts c c' (s.moved f) := by
  -- what the surroundings refuse has passed no call yet
  have refused {α : Type} (x : Ask W α) {c : Core V W} {ts : List (Turn V W)} {n : Node}
      {asked : Option String} {f : Fault} (hcurrent : c.current = some n) (hocc : n.Occurs tree)
      (hasks : n.Asks asked) (hlast : RaisedLast b ts asked f) (hf : f.isArity = true) :
      Passed b tree ts c (coreOf (ask x c)) (f.carried n.callSite) := by
    obtain ⟨title, got, want, place, rfl⟩ := Fault.exists_arity hf
    rw [coreOf_ask]
    exact ⟨n, _, [], hcurrent, hocc, .surroundings hasks hlast, rfl, by simp⟩
  induction h with
  | rest | cut => exact ⟨hc, by simp⟩
  | next h _ ih ih' =>
    obtain ⟨hc₁, -⟩ := ih hs hc
    obtain ⟨hc₂, hpassed⟩ := ih' hs hc₁
    refine ⟨hc₂, fun f hf harity => ?_⟩
    obtain ⟨n, g, entries, hcurrent, hocc, hblamed, hcalls, hg⟩ := hpassed f hf harity
    exact ⟨n, g, entries, hcurrent, hocc, hblamed.append _, h.calls_eq ▸ hcalls, hg⟩
  | note => exact ⟨hc.of_eq (by simp), by simp⟩
  | visit | make | assign => exact ⟨hc.of_eq rfl, by simp⟩
  | define hn => exact ⟨hc.defined (hn.occurs hs), by simp⟩
  | conflict =>
    refine ⟨hc, ?_⟩
    rintro f ⟨⟩ harity
    exact nomatch Fault.isArity_of_raise harity
  | @truthy _ _ n v hn htest hcurrent =>
    refine ⟨hc.ask _, fun f hf harity => ?_⟩
    have hsite : n.callSite = [] := by
      cases n <;> first | rfl | cases htest
    have hpassed := refused (b.truthy v) hcurrent (hn.occurs hs) (show n.Asks none from htest)
      (.single (.truthy (error_of_haltOf_ask hf))) harity
    rwa [hsite] at hpassed
  | call hn hname hcurrent _ ih =>
    obtain ⟨hc', hpassed⟩ := ih ⟨_, rfl, rfl, hname, hn.occurs hs⟩ hc
    refine ⟨hc', fun f hf harity => ?_⟩
    -- the fault was moved on its way out of the call, which is what is known of it there
    obtain ⟨halt, rfl, hhalt⟩ := Option.map_eq_some_iff.mp hf
    cases halt with
    | outOfFuel => cases hhalt
    | fault inner =>
      cases hhalt
      exact hpassed inner rfl harity
  | unresolved | tooDeep =>
    refine ⟨hc, ?_⟩
    rintro f ⟨⟩ harity
    exact nomatch Fault.isArity_of_raise (Fault.isArity_of_movedTo harity)
  | @arity request _ _ c f hnode hf _ hargs =>
    obtain ⟨n, rfl, rfl, hname, hocc⟩ := hs
    refine ⟨hc.of_eq (by simp), ?_⟩
    rintro _ ⟨⟩ -
    rw [Fault.raise_of_isWritable rfl rfl]
    refine ⟨n, _, [⟨request.name, n.place⟩], by simpa using hnode, hocc,
      .function hname (by simpa using hf) hargs (by simp) (by simp), by simp, ?_⟩
    -- the call stands at the place of the node, which changes nothing the second time
    rw [Node.callSite_of_callee? hname]
    exact (Fault.movedTo_movedTo _ _).symm
  | @inside request _ _ c _ _ _ _ hf _ _ _ ih =>
    obtain ⟨hc', hpassed⟩ := ih (hc _ _ hf) (hc.of_eq (by simp))
    refine ⟨hc', fun f ho harity => ?_⟩
    obtain ⟨n, rfl, rfl, -, -⟩ := hs
    obtain ⟨m, g, entries, hcurrent, hocc, hblamed, hcalls, hg⟩ :=
      hpassed f ho (Fault.isArity_of_movedTo harity)
    refine ⟨m, g, entries ++ [⟨request.name, n.place⟩], hcurrent, hocc, hblamed.append [_],
      by simpa using hcalls, ?_⟩
    -- the call comes last on the way out
    rw [List.map_append, ← List.append_assoc, Fault.carried_append, ← hg]
    rfl
  | through hf _ _ _ ih =>
    obtain ⟨hc', -⟩ := ih (hc _ _ hf) (hc.of_eq (by simp))
    exact ⟨hc'.of_eq (by simp), by simp⟩
  | @has request _ _ _ target hnode =>
    obtain ⟨n, rfl, rfl, hname, hocc⟩ := hs
    refine ⟨hc.ask _, fun f hf harity => ?_⟩
    have hpassed := refused (b.has target request.name) hnode hocc
      (show n.Asks (some request.name) from hname) (.single (.has (error_of_haltOf_ask hf)))
      (Fault.isArity_of_movedTo harity)
    rwa [Node.callSite_of_callee? hname] at hpassed
  | @invoke request _ _ c target args hnode =>
    obtain ⟨n, rfl, rfl, hname, hocc⟩ := hs
    refine ⟨hc.ask _, fun f hf harity => ?_⟩
    have hpassed := refused (b.invoke c.activation target request.name args) hnode hocc
      (show n.Asks (some request.name) from hname) (.single (.invoke (error_of_haltOf_ask hf)))
      (Fault.isArity_of_movedTo harity)
    rwa [Node.callSite_of_callee? hname] at hpassed

/-! ### Runs -/

/-- The first line among those of a node and of calls around is that of the node, or there is none,
unless the node has no line and one of the calls has. -/
theorem Node.first_line_iff {n : Node} {calls : List CallEntry} {location : Option Place}
    (h : location = (n.place :: calls.map CallEntry.site).find? Place.isPositioned) :
    (location = none ∨ location = some n.place) ↔
      n.place.isPositioned = true ∨ ∀ e ∈ calls, e.site.isPositioned = false := by
  cases hn : n.place.isPositioned with
  | true =>
    rw [List.find?_cons_of_pos hn] at h
    exact iff_of_true (.inr h) (.inl rfl)
  | false =>
    rw [List.find?_cons_of_neg (by simp [hn])] at h
    -- what is found has a line, so it is not the node
    have hnot : location ≠ some n.place := by
      rintro rfl
      rw [List.find?_some h.symm] at hn
      cases hn
    rw [or_iff_left hnot, h, List.find?_eq_none]
    simp

namespace Runner

variable (r : Runner V W) (tracing : Tracing) (fuel : Nat) (w : W)

/-- The turns of the run of a program that was loaded are those of the program. -/
theorem turns_of_load {job : Job} {p : Program} (h : job.load r.file = .ok (.ok p)) :
    r.turns tracing fuel job w = p.turns r.bridge fuel (r.start tracing w) := by
  simp only [turns, h]

/-- **Where a wrong number of arguments is reported.** If a run fails with it, then the node that
was being evaluated is a node of the program and to blame, and what is reported is the first line
among those of the fault as it was raised, of the node, and of the calls that are open, the
innermost first. In surroundings that know nothing of places, the line of the node comes first: what
is reported is no other line, unless the node has none and one of the open calls has. -/
theorem mismatch_located {job : Job} {p : Program} {failure : Failure}
    (hload : job.load r.file = .ok (.ok p))
    (hfailed : (r.run tracing fuel job w).ending = .failed failure)
    (hkind : failure.kind = "ArityMismatch") :
    ∃ core n fault, (r.run tracing fuel job w).core = some core ∧ core.current = some n ∧
      n.Occurs p.body ∧ Mismatched r.bridge (r.turns tracing fuel job w) core n fault ∧
      failure.location = (fault.place :: (n.callSite ++ core.calls.map CallEntry.site)).find?
        Place.isPositioned ∧
      (r.bridge.IsUnplaced →
        n.callee?.isSome = true ∧
        failure.location = (n.place :: core.calls.map CallEntry.site).find? Place.isPositioned ∧
        ((failure.location = none ∨ failure.location = some n.place) ↔
          n.place.isPositioned = true ∨ ∀ e ∈ core.calls, e.site.isPositioned = false)) := by
  rw [r.run_of_load tracing fuel p w hload] at hfailed ⊢
  obtain ⟨core, reported, hcore, heval, hreport⟩ := fault_of_failed r tracing fuel p w hfailed
  obtain ⟨htitle, hlocation, -⟩ := reported_eq hreport
  have harity : reported.isArity = true := Fault.isArity_of_kind (htitle.symm.trans hkind)
  have hcourse := p.eval_follows r.bridge fuel (r.start tracing w)
  rw [heval] at hcourse
  have hstart : (r.start tracing w).InTree p.body := fun _ _ hf => nomatch hf
  obtain ⟨-, hpassed⟩ := Course.mismatched hcourse (fun n hn => .top hn) hstart
  obtain ⟨n, fault, entries, hcurrent, hocc, hblamed, hcalls, hcarried⟩ :=
    hpassed reported rfl harity
  obtain rfl : core.calls = entries := by simpa [start, Core.fresh] using hcalls
  obtain rfl : reported = fault.carried (n.callSite ++ core.calls.map CallEntry.site) := hcarried
  have hfirst := Fault.positioned?_carried harity hblamed.isArity
  have hat : (fault.carried (n.callSite ++ core.calls.map CallEntry.site)).reportedAt core.current =
      (fault.carried (n.callSite ++ core.calls.map CallEntry.site)).place := by
    obtain ⟨_, _, _, _, heq⟩ := Fault.exists_arity harity
    rw [heq]
    rfl
  rw [hat, hfirst] at hlocation
  refine ⟨core, n, fault, hcore, hcurrent, hocc, ?_, hlocation, fun hb => ?_⟩
  · rw [r.turns_of_load tracing fuel w hload]
    exact hblamed
  · obtain ⟨hcallee, hplace⟩ := hblamed.of_isUnplaced hb
    have hsites : n.callSite = [n.place] := if_pos hcallee
    rw [hsites, List.find?_cons_of_neg (by simp [hplace])] at hlocation
    exact ⟨hcallee, hlocation, Node.first_line_iff hlocation⟩

/-- A call that asks for a length without saying of what, and whose line is nil. -/
def unlinedCall : Document :=
  Program.mappingOf [("node", .str "call"), ("name", .str "len"), ("args", .list none []),
    ("line", .literal .nil)]

/-- A function that makes this call. -/
def unlinedFunction : Document :=
  Program.mappingOf [("node", .str "def"), ("name", .str "g"), ("params", .list none []),
    ("body", .list none [unlinedCall])]

/-- The function and a call of it, which has a line. -/
def unlined : Document :=
  .list none [unlinedFunction,
    Program.mappingOf [("node", .str "call"), ("name", .str "g"), ("args", .list none []),
      ("line", .int 7)]]

/-- The program of that document. -/
def unlinedProgram : Program :=
  ⟨"-", [
    .define ⟨.str "-", .int 0⟩ "g" [] [.call ⟨.str "-", .nil⟩ "len" []],
    .call ⟨.str "-", .int 7⟩ "g" []]⟩

theorem load_unlined : (Job.statements unlined).load "-" = .ok (.ok unlinedProgram) := by
  have hnone (c : Program.Context) : Program.readAll c [] = .ok [] := by rw [Program.readAll]
  have hbody : Program.readAll ⟨"-", .str "-", .int 0⟩ [unlinedCall] =
      .ok [.call ⟨.str "-", .nil⟩ "len" []] := by
    rw [Program.readAll, unlinedCall, Program.mappingOf,
      Program.readNode_call rfl rfl rfl rfl (hnone _), hnone]
    rfl
  have hfunction : Program.readNode (.ofFile "-") unlinedFunction =
      .ok (.define ⟨.str "-", .int 0⟩ "g" [] [.call ⟨.str "-", .nil⟩ "len" []]) :=
    Program.readNode_define rfl rfl rfl rfl rfl hbody
  rw [Job.load, unlined, Program.ofDocument, Program.readAll, hfunction, Program.readAll,
    Program.mappingOf, Program.readNode_call rfl rfl rfl rfl (hnone _), hnone]
  rfl

theorem mismatch_located_of_unlined :
    let run := (Runner.mk Bridges.reflective "-" 64).run .off 6 (.statements unlined)
      (World.start .standard "")
    ∃ failure core n, run.ending = .failed failure ∧ run.core = some core ∧ core.current = some n ∧
      failure.location =
        (n.place :: core.calls.map CallEntry.site).find? Place.isPositioned := by
  intro run
  have hrun : run = (Runner.mk Bridges.reflective "-" 64).run .off 6 (.program unlinedProgram)
      (World.start .standard "") := run_of_load _ _ _ _ _ load_unlined
  have hfails : run.ending.failure?.map Failure.kind = some "ArityMismatch" := by
    rw [hrun]
    decide +kernel
  obtain ⟨failure, hfailure, hkind⟩ := Option.map_eq_some_iff.mp hfails
  have hfailed : run.ending = .failed failure := Ending.failure?_eq_some_iff.mp hfailure
  obtain ⟨core, n, -, hcore, hcurrent, -, -, -, hunplaced⟩ :=
    mismatch_located (Runner.mk Bridges.reflective "-" 64) .off 6 (World.start .standard "")
      load_unlined hfailed hkind
  exact ⟨failure, core, n, hfailed, hcore, hcurrent, (hunplaced Bridges.reflective_isUnplaced).2.1⟩

/-- **A mismatch that is blamed on another call.** The call that could not be carried out has no
line, and the place of the call around it is reported. -/
theorem mismatch_misplaced :
    let r := Runner.mk Bridges.reflective "-" 64
    let run := r.run .off 6 (.statements unlined) (World.start .standard "")
    (Job.statements unlined).load r.file = .ok (.ok unlinedProgram) ∧
      ∃ failure core n, run.ending = .failed failure ∧ failure.kind = "ArityMismatch" ∧
        failure.message = "in -:7: wrong # of arg for len() (0 for 1)" ∧
        run.core = some core ∧ core.current = some n ∧ n.callee? = some "len" ∧
        core.calls.map CallEntry.text = ["g (called at -:7)"] ∧
        failure.location ≠ none ∧ failure.location ≠ some n.place := by
  intro r run
  have hrun : run = r.run .off 6 (.program unlinedProgram) (World.start .standard "") :=
    run_of_load _ _ _ _ _ load_unlined
  have hfails : run.ending.failure?.map (fun failure =>
      (failure.kind, failure.message, failure.location.any Place.isPositioned)) =
      some ("ArityMismatch", "in -:7: wrong # of arg for len() (0 for 1)", true) := by
    rw [hrun]
    decide +kernel
  have hstops : run.core.bind (fun core => core.current.map fun n =>
      (n.callee?, n.place.isPositioned, core.calls.map CallEntry.text)) =
      some (some "len", false, ["g (called at -:7)"]) := by
    rw [hrun]
    decide +kernel
  obtain ⟨failure, hfailure, hsays⟩ := Option.map_eq_some_iff.mp hfails
  obtain ⟨core, hcore, hcurrent⟩ := Option.bind_eq_some_iff.mp hstops
  obtain ⟨n, hn, hnode⟩ := Option.map_eq_some_iff.mp hcurrent
  simp only [Prod.mk.injEq] at hsays hnode
  obtain ⟨hkind, hmessage, hplaced⟩ := hsays
  obtain ⟨hcallee, hunplaced, hcalls⟩ := hnode
  obtain ⟨place, hlocation, hpositioned⟩ := (Option.any_eq_true _ _).mp hplaced
  have hother : place ≠ n.place := by
    rintro rfl
    rw [hpositioned] at hunplaced
    cases hunplaced
  exact ⟨load_unlined, failure, core, n, Ending.failure?_eq_some_iff.mp hfailure, hkind, hmessage,
    hcore, hn, hcallee, hcalls, by simp [hlocation], by simp [hlocation, hother]⟩

end Runner

end Treewalk
