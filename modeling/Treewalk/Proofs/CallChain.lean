import Treewalk.Proofs.Dispatch
import Treewalk.Proofs.Location

/-!
# The chain of calls and the text of the program

The chain of calls is kept for reports only: an entry is a name and a place, pushed with a frame and
popped with it. This file shows that it tells the truth about the program. Each entry is the call of
a function that a definition of the program has registered, and its place is that of a call or a
bare name, of the same name, in the body of the function one entry further down, or at top level for
the entry at the bottom (`Treewalk.CallEntry.IsTrue`, `Treewalk.CallChain`).

What ties the chain to the text is the body that is being carried out
(`Treewalk.runningBody`): it can be read off the chain and the function table. Along a course the
table only grows, so what a name means for the entries of the chain does not change any more
(`Treewalk.CallChain.mono`), and a body that is carried out stays the running one until it returns.

* **`Treewalk.Course.callChain`**: the chain is true at every turn of a course, and at its end.
* **`Treewalk.Course.calls_open`**: the chain holds what was begun and not finished.
* **`Treewalk.Runner.stacktrace_true`**: both together, for the report on a run.
-/

namespace Treewalk

open Treewalk.Core

variable {V W : Type}

/-! ### Chains that are true -/

section Chains

variable (tree : List Node) (table : List (String × Function))

/-- **The body that is being carried out** inside a chain of calls: that of the innermost function,
or the program itself. -/
def runningBody : List CallEntry → List Node
  | [] => tree
  | e :: _ => ((table.lookup e.name).map Function.body).getD []

/-- **An entry of the chain is true**, on top of the entries below it. -/
structure CallEntry.IsTrue (below : List CallEntry) (e : CallEntry) : Prop where
  /-- The function was registered by a definition of the program. -/
  registered : ∃ place params body, table.lookup e.name = some ⟨e.name, params, body, place⟩ ∧
    Node.Occurs tree (.define place e.name params body)
  /-- It was called by a node of the body below, from the place of that node. -/
  called : ∃ n : Node, n.Within (runningBody tree table below) ∧ n.callee? = some e.name ∧
    e.site = n.place

/-- **A chain of calls is true**: every entry is, on top of those below it. -/
def CallChain : List CallEntry → Prop
  | [] => True
  | e :: below => e.IsTrue tree table below ∧ CallChain below

end Chains

section Chains

variable {tree : List Node} {table table' : List (String × Function)} {calls : List CallEntry}

/-- A longer table does not change the body that is being carried out. -/
theorem CallChain.runningBody_eq (h : CallChain tree table calls) (htable : table <+: table') :
    runningBody tree table' calls = runningBody tree table calls := by
  cases calls with
  | nil => rfl
  | cons e below =>
    obtain ⟨place, params, body, hlookup, -⟩ := h.1.registered
    rw [runningBody, runningBody, hlookup, htable.lookup_eq_some hlookup]

/-- **What is true stays true** when functions are defined. -/
theorem CallChain.mono (h : CallChain tree table calls) (htable : table <+: table') :
    CallChain tree table' calls := by
  induction calls with
  | nil => trivial
  | cons e below ih =>
    obtain ⟨⟨⟨place, params, body, hlookup, hocc⟩, hcalled⟩, hbelow⟩ := h
    rw [← hbelow.runningBody_eq htable] at hcalled
    exact ⟨⟨⟨place, params, body, htable.lookup_eq_some hlookup, hocc⟩, hcalled⟩, ih hbelow⟩

end Chains

/-! ### Along a course -/

/-- A function of the table was defined by a node of a tree. -/
def DefinedIn (tree : List Node) (e : String × Function) : Prop :=
  e.2.name = e.1 ∧ Node.Occurs tree (.define e.2.place e.1 e.2.params e.2.body)

/-- What the nodes of a tree define is defined in the tree. -/
theorem DefinedIn.hereditary (tree : List Node) :
    Hereditary (Node.Occurs tree) (DefinedIn tree) where
  part hm hn := .child hm (Node.mem_children_of_mem_parts hn)
  define hn := ⟨rfl, hn⟩
  body he _ hn := .child he.2 hn

namespace Core

/-- **The calls of a core are true** to a tree, from which its functions come as well. -/
structure TrueTo (tree : List Node) (c : Core V W) : Prop where
  functions : ∀ e ∈ c.functions, DefinedIn tree e
  calls : CallChain tree c.functions c.calls

/-- The body that is being carried out in a core. -/
def running (tree : List Node) (c : Core V W) : List Node := runningBody tree c.functions c.calls

namespace TrueTo

variable {tree : List Node} {c c' : Core V W}

theorem fresh (maxDepth : Int) (tracing : Tracing) (w : W) :
    (Core.fresh maxDepth tracing w : Core V W).TrueTo tree :=
  ⟨by simp [Core.fresh], trivial⟩

theorem of_eq (hc : c.TrueTo tree) (hfunctions : c'.functions = c.functions)
    (hcalls : c'.calls = c.calls) : c'.TrueTo tree :=
  ⟨hfunctions ▸ hc.functions, hfunctions ▸ hcalls ▸ hc.calls⟩

/-- What is being carried out is part of the tree. -/
theorem occurs_of_running (hc : c.TrueTo tree) : ∀ n ∈ c.running tree, n.Occurs tree := by
  intro n hn
  unfold running at hn
  have hcalls := hc.calls
  cases hlist : c.calls with
  | nil =>
    rw [hlist] at hn
    exact .top hn
  | cons e below =>
    rw [hlist] at hn hcalls
    obtain ⟨place, params, body, hlookup, hocc⟩ := hcalls.1.registered
    rw [runningBody, hlookup] at hn
    exact .child hocc hn

/-- **A call that is entered** adds a true entry. -/
theorem entered (hc : c.TrueTo tree) {n : Node} {name : String} {f : Function}
    (hf : c.functions.lookup name = some f) (hn : n.Within (c.running tree))
    (hname : n.callee? = some name) : (c.entered name (some n.place)).TrueTo tree := by
  have hmem : (name, f) ∈ c.functions := mem_of_lookup_eq_some hf
  obtain ⟨hown, hocc⟩ := hc.functions _ hmem
  refine ⟨by simpa using hc.functions, ?_⟩
  rw [entered_functions, entered_calls]
  refine ⟨⟨⟨f.place, f.params, f.body, ?_, hocc⟩, n, hn, hname, rfl⟩, hc.calls⟩
  obtain rfl : f.name = name := hown
  exact hf

end TrueTo

end Core

/-- What is carried out is what is running: the body of the innermost call, or a call by one of its
nodes. -/
def Subject.Runs (tree : List Node) (c : Core V W) : Subject V → Prop
  | .body nodes => nodes = c.running tree
  | .call request site _ => ∃ n : Node, n.Within (c.running tree) ∧
      n.callee? = some request.name ∧ site = some n.place

theorem Subject.Runs.of_eq {tree : List Node} {c c' : Core V W} {s : Subject V}
    (h : s.Runs tree c) (hrunning : c'.running tree = c.running tree) : s.Runs tree c' := by
  cases s with
  | body nodes => exact h.trans hrunning.symm
  | call request site node =>
    obtain ⟨n, hn, hname, hsite⟩ := h
    exact ⟨n, hrunning ▸ hn, hname, hsite⟩

/-- **Along a course the chain of calls is true**, at every turn and at the end. -/
theorem Course.callChain {tree : List Node} {b : Bridge V W} {s : Subject V} {c c' : Core V W}
    {ts : List (Turn V W)} {o : Option Halt} (h : Course b s c ts o c') (hs : s.Runs tree c)
    (hc : c.TrueTo tree) : (∀ t ∈ ts, t.core.TrueTo tree) ∧ c'.TrueTo tree := by
  have asked {α : Type} {c : Core V W} (x : Ask W α) (hc : c.TrueTo tree) :
      (coreOf (ask x c)).TrueTo tree := by
    rw [coreOf_ask]
    exact hc.of_eq rfl rfl
  induction h with
  | rest | cut | unresolved => exact ⟨by simp, hc⟩
  | @next _ c c₁ _ _ _ _ h₁ _ ih ih' =>
    obtain ⟨hts, hc₁⟩ := ih hs hc
    have hrunning : c₁.running tree = c.running tree := by
      rw [running, running, h₁.calls_eq]
      exact hc.calls.runningBody_eq h₁.table.table_prefix
    obtain ⟨hts', hc₂⟩ := ih' (hs.of_eq hrunning) hc₁
    exact ⟨by simpa [or_imp, forall_and] using ⟨hts, hts'⟩, hc₂⟩
  | note => exact ⟨by simp, hc.of_eq (by simp) (by simp)⟩
  | visit | make => exact ⟨by simp, hc.of_eq rfl rfl⟩
  | assign => exact ⟨by simpa using hc, hc.of_eq rfl rfl⟩
  | @define _ inner c place name params hn _ _ =>
    obtain rfl := hs
    have hocc := (DefinedIn.hereditary tree).within hn hc.occurs_of_running
    refine ⟨by simpa using hc, ?_, ?_⟩
    · intro e he
      rw [defined_functions, List.mem_append, List.mem_singleton] at he
      rcases he with he | rfl
      · exact hc.functions e he
      · exact ⟨rfl, hocc⟩
    · rw [defined_functions, defined_calls]
      exact hc.calls.mono (List.prefix_append _ _)
  | conflict | tooDeep => exact ⟨by simpa using hc, hc⟩
  | truthy v => exact ⟨by simpa using hc, asked _ hc⟩
  | call hn hname _ _ ih =>
    obtain rfl := hs
    exact ih ⟨_, hn, hname, rfl⟩ hc
  | arity _ hf =>
    obtain ⟨n, hn, hname, rfl⟩ := hs
    exact ⟨by simpa using hc, hc.entered hf hn hname⟩
  | inside hf _ _ _ ih =>
    obtain ⟨n, hn, hname, rfl⟩ := hs
    have hentered := hc.entered hf hn hname
    obtain ⟨hts, hc'⟩ := ih (by simp [Subject.Runs, running, runningBody, hf])
      (hentered.of_eq rfl rfl)
    exact ⟨by simpa using ⟨hc, hts⟩, hc'⟩
  | @through _ _ node c c' _ _ hf hroom hargs hbody ih =>
    obtain ⟨n, hn, hname, rfl⟩ := hs
    have hentered := hc.entered hf hn hname
    obtain ⟨hts, hc'⟩ := ih (by simp [Subject.Runs, running, runningBody, hf])
      (hentered.of_eq rfl rfl)
    refine ⟨by simpa [or_imp, forall_and] using ⟨hc, hts, hc'⟩, by simpa using hc'.functions, ?_⟩
    -- the chain is the one from before the call again, and the table has grown since
    have hcall : Course b (.call _ _ node) c _ none c'.left := .through hf hroom hargs hbody
    rw [hcall.calls_eq]
    exact hc.calls.mono hcall.table.table_prefix
  | has target => exact ⟨by simpa using hc, asked _ hc⟩
  | invoke => exact ⟨by simpa using hc, asked _ hc⟩

/-! ### Calls that are open -/

/-- What a turn does to the calls that are open: a push begins one if there is room, a pop ends the
innermost. -/
def Turn.openCalls (names : List String) (t : Turn V W) : List String :=
  match t.move with
  | .enter name => if t.core.maxDepth ≤ t.core.depth then names else name :: names
  | .leave => names.tail
  | _ => names

/-- **The calls that were begun and not finished** over some turns, the innermost first. -/
def openCalls (names : List String) (ts : List (Turn V W)) : List String :=
  ts.foldl Turn.openCalls names

theorem openCalls_append (names : List String) (ts ts' : List (Turn V W)) :
    openCalls names (ts ++ ts') = openCalls (openCalls names ts) ts' := List.foldl_append

/-- **Along a course the chain holds the calls that are open.** -/
theorem Course.calls_open {b : Bridge V W} {s : Subject V} {c c' : Core V W} {ts : List (Turn V W)}
    {o : Option Halt} (h : Course b s c ts o c') :
    c'.calls.map CallEntry.name = openCalls (c.calls.map CallEntry.name) ts := by
  have asked {α : Type} (c : Core V W) (x : Ask W α) :
      (coreOf (ask x c)).calls.map CallEntry.name = c.calls.map CallEntry.name := by
    rw [coreOf_ask, inWorld_calls]
  induction h with
  | rest | cut | visit | make | assign | conflict | unresolved => rfl
  | next _ _ ih ih' => rw [ih', ih, openCalls_append]
  | note | define => simp [openCalls, Turn.openCalls]
  | truthy | has | invoke => exact asked _ _
  | call _ _ _ _ ih => exact ih
  | tooDeep _ _ hfull => simp [openCalls, Turn.openCalls, hfull]
  | arity _ _ hroom => simp [openCalls, Turn.openCalls, hroom]
  | inside _ hroom _ _ ih => simpa [openCalls, Turn.openCalls, hroom] using ih
  | @through request site node c c' f ts hf hroom hargs hbody ih =>
    have hcall : Course b (.call request site node) c _ none c'.left :=
      .through hf hroom hargs hbody
    have hbegun : openCalls (c.calls.map CallEntry.name) [⟨c, .enter request.name⟩] =
        request.name :: c.calls.map CallEntry.name := if_neg hroom
    rw [hcall.calls_eq, ← List.singleton_append, openCalls_append, hbegun, openCalls_append]
    -- the body has left the chain as it was when the call began
    have hopen : openCalls (request.name :: c.calls.map CallEntry.name) ts =
        request.name :: c.calls.map CallEntry.name := by
      simpa [hbody.calls_eq] using ih.symm
    rw [hopen]
    rfl

/-! ### Runs -/

namespace Runner

variable (r : Runner V W) (tracing : Tracing) (fuel : Nat) (p : Program) (w : W)

/-- The stack of a report is the chain of calls. -/
theorem stack_of_failure {fault : Fault} {current : Option Node} {calls : List CallEntry}
    {failure : Failure} (h : fault.failure current calls = .ok failure) :
    failure.stack = calls.map CallEntry.text := by
  simp only [Fault.failure] at h
  split at h
  · cases h
    rfl
  · cases h

/-- **The stack of a report tells the truth.** At every turn of a run, and at its end, the chain of
calls is true to the program; at the end it holds the calls that were begun and not finished; and
the report on a run that failed lists this chain, the innermost call first, with one entry for each
frame above the one at the bottom. -/
theorem stacktrace_true :
    (∀ t ∈ p.turns r.bridge fuel (r.start tracing w),
        CallChain p.body t.core.functions t.core.calls) ∧
      ∃ core, (r.run tracing fuel (.program p) w).core = some core ∧
        CallChain p.body core.functions core.calls ∧
        core.calls.map CallEntry.name =
          openCalls [] (p.turns r.bridge fuel (r.start tracing w)) ∧
        ∀ failure, (r.run tracing fuel (.program p) w).ending = .failed failure →
          failure.stack = core.calls.map CallEntry.text ∧
            failure.stack.length = core.depth - 1 := by
  have hcourse := p.eval_follows r.bridge fuel (r.start tracing w)
  have hstart : (r.start tracing w).TrueTo p.body := .fresh _ _ _
  obtain ⟨hturns, hcore⟩ := Course.callChain hcourse rfl hstart
  have hopen := Course.calls_open hcourse
  obtain ⟨-, hstacked⟩ := Course.wellStacked hcourse (.fresh _ _ _)
  refine ⟨fun t ht => (hturns t ht).calls, _, run_core r tracing fuel p w, hcore.calls, hopen, ?_⟩
  intro failure hfailed
  obtain ⟨core, fault, hrun, heval, hreport⟩ := fault_of_failed r tracing fuel p w hfailed
  have hstack := stack_of_failure hreport
  rw [heval] at hstacked ⊢
  refine ⟨hstack, ?_⟩
  rw [hstack, List.length_map]
  exact hstacked.calls_length

/-- Two functions, of which one is called by its bare name in a test of the other. -/
def descent : Program :=
  ⟨"descent", [
    .define ⟨.str "descent", .int 1⟩ "f" []
      [.cond ⟨.str "descent", .int 2⟩ (.var ⟨.str "descent", .int 3⟩ "g") [] none],
    .define ⟨.str "descent", .int 4⟩ "g" [] [.call ⟨.str "descent", .int 5⟩ "unknown" []],
    .call ⟨.str "descent", .int 6⟩ "f" []]⟩

theorem stacktrace_true_of_descent :
    let run := (Runner.mk Bridges.reflective "descent" 64).run .off 6 (.program descent)
      (World.start .standard "")
    ∃ failure core, run.ending = .failed failure ∧ run.core = some core ∧
      CallChain descent.body core.functions core.calls ∧
      failure.stack = core.calls.map CallEntry.text ∧
      failure.stack = ["g (called at descent:3)", "f (called at descent:6)"] := by
  intro run
  have hfails : run.ending.failure?.map Failure.stack =
      some ["g (called at descent:3)", "f (called at descent:6)"] := by decide +kernel
  obtain ⟨failure, hfailure, hstack⟩ := Option.map_eq_some_iff.mp hfails
  have hending : run.ending = .failed failure := Ending.failure?_eq_some_iff.mp hfailure
  obtain ⟨-, core, hcore, hchain, -, hreport⟩ := stacktrace_true
    (Runner.mk Bridges.reflective "descent" 64) .off 6 descent (World.start .standard "")
  exact ⟨failure, core, hending, hcore, hchain, (hreport failure hending).1, hstack⟩

end Runner

end Treewalk
