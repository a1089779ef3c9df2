import Treewalk.Proofs.Location
import Treewalk.Proofs.Stack

/-!
# Faults of the surroundings are final

When the surroundings raise a fault, nothing is tried again and nothing else is tried: the turn at
which they raise it is the last one, the core stays as it was at that moment, and the fault leaves
the evaluation. It passes the call that was being made and then every call that is still open, the
innermost first (`Treewalk.Turn.sites`), and each of them may move it (`Treewalk.Fault.carried`).
Only a wrong number of arguments without a line is ever moved, and it stays where the first call
with a line has put it (`Treewalk.Fault.carried_arity`).

What it is called by then is the fault that was raised, but for its place, unless that first line
cannot be written: then a mishap takes the place of the fault (`Treewalk.Fault.kept_carried_iff`).
Such a line cannot stand in a report either. So whatever a run does report of a fault of the
surroundings is that very fault.

* **`Treewalk.Course.ends_raised`**: along a course, a fault of the surroundings is the end;
* **`Treewalk.Runner.failure_final`**: what this means for a run, and for statements that follow
  others which fail;
* **`Treewalk.Runner.failure_replaced`**: a call at a line that is too long loses the fault.
-/

namespace Treewalk

open Treewalk.Core

variable {V W α : Type}

/-! ### What is raised, and what it passes -/

/-- The fault that a question is answered with, if it is one, and the surroundings then. -/
def faultOf : EStateM.Result Fault W α → Option (Fault × W)
  | .ok _ _ => none
  | .error f w => some (f, w)

theorem ask_of_faultOf {x : Ask W α} {c : Core V W} {f : Fault} {w : W}
    (h : faultOf (x c.world) = some (f, w)) : ask x c = .error (.fault f) (c.inWorld w) := by
  cases hx : x c.world with
  | ok a w' => simp [hx, faultOf] at h
  | error f' w' =>
    obtain ⟨rfl, rfl⟩ : f' = f ∧ w' = w := by simpa [hx, faultOf] using h
    exact ask_of_error hx

namespace Turn

/-- **What the surroundings raise at a turn**, and the state that they are in then. -/
def raised? (b : Bridge V W) (t : Turn V W) : Option (Fault × W) :=
  match t.move with
  | .has call target => faultOf (b.has target call.name t.core.world)
  | .invoke call target args =>
    faultOf (b.invoke t.core.activation target call.name args t.core.world)
  | .truthy v => faultOf (b.truthy v t.core.world)
  | .assign _ _ | .define _ | .enter _ | .leave => none

/-- Where the call stands that a turn is made for, if it is made for one. -/
def asker (t : Turn V W) : List Place :=
  match t.move with
  | .has _ _ | .invoke _ _ _ => (t.core.current.map Node.place).toList
  | .truthy _ | .assign _ _ | .define _ | .enter _ | .leave => []

/-- **The call sites around a turn**, the innermost first: the call that it is made for, and those
that are open. -/
def sites (t : Turn V W) : List Place := t.asker ++ t.core.calls.map CallEntry.site

end Turn

namespace Fault

/-- **A fault as it comes out of calls**, each of which may move it to its own place. -/
def carried (sites : List Place) (f : Fault) : Fault := sites.foldl (fun f p => f.movedTo p) f

@[simp] theorem carried_nil (f : Fault) : f.carried [] = f := rfl

@[simp] theorem carried_cons (p : Place) (sites : List Place) (f : Fault) :
    f.carried (p :: sites) = (f.movedTo p).carried sites := rfl

theorem carried_append (sites others : List Place) (f : Fault) :
    f.carried (sites ++ others) = (f.carried sites).carried others :=
  List.foldl_append

/-- What no call moves comes out as it is. -/
theorem carried_eq_self {f : Fault} (h : f.isPositioned = true ∨ f.isArity = false)
    (sites : List Place) : f.carried sites = f := by
  induction sites with
  | nil => rfl
  | cons p sites ih =>
    have hstays : f.movedTo p = f := by
      rcases h with h | h
      · exact movedTo_of_isPositioned p h
      · exact movedTo_of_not_isArity p h
    rw [carried_cons, hstays, ih]

/-- What cannot be written where it is raised is replaced. -/
theorem raise_of_not_isWritable {cause : Cause} {place : Place} (h : place.isWritable = false) :
    raise cause place = .host .tooManyDigits := by
  simp [raise, h]

theorem exists_arity {f : Fault} (h : f.isArity = true) :
    ∃ name got want place, f = .raised (.arity name got want) place := by
  cases f with
  | host m => cases h
  | raised cause place =>
    cases cause with
    | arity name got want => exact ⟨name, got, want, place, rfl⟩
    | _ => cases h

/-- **A wrong number of arguments goes to the first call with a line.** Calls without one only hand
on the file. -/
theorem carried_arity {name : String} {got : Int} {want : Want} {place : Place}
    (h : place.isPositioned = false) (sites : List Place) :
    (raised (.arity name got want) place).carried sites =
      match sites.find? Place.isPositioned with
      | some p => raise (.arity name got want) p
      | none => .raised (.arity name got want) (sites.getLastD place) := by
  induction sites generalizing place with
  | nil => rfl
  | cons p sites ih =>
    have hmoved :
        (raised (.arity name got want) place).movedTo p = raise (.arity name got want) p :=
      if_neg (by simp [isPositioned, h])
    rw [carried_cons, hmoved]
    cases hp : p.isPositioned with
    | true =>
      rw [List.find?_cons_of_pos hp]
      refine carried_eq_self ?_ sites
      unfold raise
      split
      · exact .inl hp
      · exact .inr rfl
    | false =>
      have hwritable : p.isWritable = true := by simp [Place.isWritable, hp]
      rw [List.find?_cons_of_neg (by simp [hp]), raise_of_isWritable rfl hwritable, ih hp,
        List.getLastD_cons]

/-- **A line that is too long loses the fault**, if it is the first that the fault meets. -/
theorem carried_of_not_isWritable {sites : List Place} {f : Fault} {p : Place}
    (harity : f.isArity = true) (hpos : f.isPositioned = false)
    (hfirst : sites.find? Place.isPositioned = some p) (hlong : p.isWritable = false) :
    f.carried sites = .host .tooManyDigits := by
  obtain ⟨name, got, want, place, rfl⟩ := exists_arity harity
  rw [carried_arity hpos, hfirst]
  exact raise_of_not_isWritable hlong

/-- **A fault kept as it was**, but for a place: a wrong number of arguments without a line may have
gone to one of the calls that it passed. -/
inductive Kept (sites : List Place) : Fault → Fault → Prop
  | same (f : Fault) : Kept sites f f
  | placed {name : String} {got : Int} {want : Want} {place p : Place} :
      place.isPositioned = false → p ∈ sites →
      Kept sites (.raised (.arity name got want) place) (.raised (.arity name got want) p)

/-- **When calls keep a fault**: unless they have to write a line that cannot be written. -/
theorem kept_carried_iff {sites : List Place} {f : Fault} :
    f.Kept sites (f.carried sites) ↔
      (f.isArity = true → f.isPositioned = false →
        ∀ p, sites.find? Place.isPositioned = some p → p.isWritable = true) := by
  by_cases hmoves : f.isPositioned = true ∨ f.isArity = false
  · rw [carried_eq_self hmoves]
    refine iff_of_true (.same f) fun harity hpos => ?_
    simp [harity, hpos] at hmoves
  · obtain ⟨hpos, harity⟩ : f.isPositioned = false ∧ f.isArity = true := by simpa using hmoves
    obtain ⟨name, got, want, place, rfl⟩ := exists_arity harity
    simp only [harity, hpos, true_imp_iff]
    rw [carried_arity hpos]
    cases hfirst : sites.find? Place.isPositioned with
    | none =>
      refine iff_of_true ?_ (by simp)
      have hlast : sites.getLastD place ∈ place :: sites := List.getLastD_mem_cons
      rcases List.mem_cons.mp hlast with hlast | hlast
      · rw [hlast]
        exact .same _
      · exact .placed hpos hlast
    | some p =>
      have hp : p ∈ sites := List.mem_of_find?_eq_some hfirst
      cases hwritable : p.isWritable with
      | true =>
        refine iff_of_true ?_ (by simp [hwritable])
        have hraise : raise (.arity name got want) p = .raised (.arity name got want) p :=
          raise_of_isWritable rfl hwritable
        simpa only [hraise] using .placed hpos hp
      | false =>
        refine iff_of_false ?_ (by simp [hwritable])
        simp only [raise_of_not_isWritable hwritable]
        rintro ⟨⟩

end Fault

/-! ### Along a course -/

/-- What is carried out has a place to move faults to: a call is made by a node, from where this
stands. -/
def Subject.Sited : Subject V → Prop
  | .body _ => True
  | .call _ site node => ∃ n : Node, node = some n ∧ site = some n.place

/-- **A fault of the surroundings is the end.** The turn is the last one, the core stays as it was,
and the fault comes out of the calls that were open, those that the course began with apart. -/
theorem Course.ends_raised {b : Bridge V W} {s : Subject V} {c c' : Core V W}
    {ts : List (Turn V W)} {o : Option Halt} (h : Course b s c ts o c') (hs : s.Sited)
    {t : Turn V W} (ht : t ∈ ts) {f : Fault} {w : W} (hf : t.raised? b = some (f, w)) :
    ∃ before entries g, ts = before ++ [t] ∧ c' = t.core.inWorld w ∧
      t.core.calls = entries ++ c.calls ∧ o = some (.fault g) ∧
      s.moved g = f.carried (t.asker ++ entries.map CallEntry.site) := by
  induction h with
  | rest | cut | note | visit | make | unresolved => cases ht
  | assign | define | conflict | tooDeep | arity =>
    obtain rfl := List.mem_singleton.mp ht
    cases hf
  | next h _ ih ih' =>
    rcases List.mem_append.mp ht with ht | ht
    · -- what was raised would have halted the first course
      obtain ⟨_, _, _, _, _, _, hhalt, _⟩ := ih hs ht
      cases hhalt
    · obtain ⟨before, entries, g, rfl, hcore, hcalls, hhalt, hfault⟩ := ih' hs ht
      rw [h.calls_eq] at hcalls
      exact ⟨_ ++ before, entries, g, (List.append_assoc _ _ _).symm, hcore, hcalls, hhalt, hfault⟩
  | truthy v =>
    obtain rfl := List.mem_singleton.mp ht
    rw [ask_of_faultOf hf]
    exact ⟨[], [], f, rfl, rfl, rfl, rfl, rfl⟩
  | @call _ _ _ n _ _ _ _ _ _ _ ih =>
    obtain ⟨before, entries, g, hts, hcore, hcalls, rfl, hfault⟩ := ih ⟨n, rfl, rfl⟩ ht
    exact ⟨before, entries, _, hts, hcore, hcalls, rfl, hfault⟩
  | @inside request site _ _ _ _ _ _ _ _ _ _ ih =>
    rcases List.mem_cons.mp ht with rfl | ht
    · cases hf
    · obtain ⟨before, entries, g, rfl, hcore, hcalls, hhalt, hfault⟩ := ih trivial ht
      refine ⟨_ :: before, entries ++ [⟨request.name, site.getD .nowhere⟩], g, rfl, hcore,
        by simpa using hcalls, hhalt, ?_⟩
      -- the call comes last on the way out
      rw [List.map_append, ← List.append_assoc, Fault.carried_append, ← hfault]
      rfl
  | through _ _ _ _ ih =>
    rcases List.mem_cons.mp ht with rfl | ht
    · cases hf
    · rcases List.mem_append.mp ht with ht | ht
      · obtain ⟨_, _, _, _, _, _, hhalt, _⟩ := ih trivial ht
        cases hhalt
      · obtain rfl := List.mem_singleton.mp ht
        cases hf
  | has target hnode _ =>
    obtain ⟨n, rfl, rfl⟩ := hs
    obtain rfl := List.mem_singleton.mp ht
    rw [ask_of_faultOf hf]
    refine ⟨[], [], f, rfl, rfl, rfl, rfl, ?_⟩
    simp [Turn.asker, hnode, Subject.moved]
  | invoke hnode _ _ =>
    obtain ⟨n, rfl, rfl⟩ := hs
    obtain rfl := List.mem_singleton.mp ht
    rw [ask_of_faultOf hf]
    refine ⟨[], [], f, rfl, rfl, rfl, rfl, ?_⟩
    simp [Turn.asker, hnode, Subject.moved]

/-- **The evaluation of a program ends where the surroundings raise a fault**, if no call was open
when it began. -/
theorem Program.eval_of_raised {b : Bridge V W} {fuel : Nat} {p : Program} {c : Core V W}
    (hc : c.calls = []) {t : Turn V W} (ht : t ∈ p.turns b fuel c) {f : Fault} {w : W}
    (hf : t.raised? b = some (f, w)) :
    (∃ before, p.turns b fuel c = before ++ [t]) ∧
      p.eval b fuel c = .error (.fault (f.carried t.sites)) (t.core.inWorld w) := by
  obtain ⟨before, entries, g, hts, hcore, hcalls, hhalt, hfault⟩ :=
    (p.eval_follows b fuel c).ends_raised trivial ht hf
  refine ⟨⟨before, hts⟩, ?_⟩
  have hg : g = f.carried t.sites := by
    rw [Turn.sites, hcalls, hc, List.append_nil, ← hfault, Subject.moved]
  cases hr : p.eval b fuel c with
  | ok v c' => simp [hr] at hhalt
  | error e c' =>
    rw [hr, coreOf_error] at hcore
    rw [hr, haltOf_error, Option.some.injEq] at hhalt
    rw [hcore, hhalt, hg]

/-! ### Reports -/

/-- **When a fault is reported**: when what it says can be written, and where it is, and where the
open calls are. -/
theorem Fault.exists_failure_iff {f : Fault} {current : Option Node} {calls : List CallEntry} :
    (∃ failure, f.failure current calls = .ok failure) ↔
      f.isWritable = true ∧ (f.reportedAt current).isWritable = true ∧
        ∀ e ∈ calls, e.site.isWritable = true := by
  simp only [failure]
  split
  · rename_i hall
    simp only [Bool.and_eq_true, List.all_eq_true] at hall
    exact iff_of_true ⟨_, rfl⟩ ⟨hall.1.1, hall.1.2, hall.2⟩
  · rename_i hall
    simp only [Bool.and_eq_true, List.all_eq_true] at hall
    exact iff_of_false (by simp) fun h => hall ⟨⟨h.1, h.2.1⟩, h.2.2⟩

/-- **What is reported was kept.** A line that a call could not write would be in the report as
well: as the place of the mishap, or among the calls. -/
theorem Turn.kept_of_failure {t : Turn V W} {f : Fault} {failure : Failure}
    (h : (f.carried t.sites).failure t.core.current t.core.calls = .ok failure) :
    f.Kept t.sites (f.carried t.sites) := by
  obtain ⟨-, hplace, hcalls⟩ := Fault.exists_failure_iff.mp ⟨failure, h⟩
  refine Fault.kept_carried_iff.mpr fun harity hpos p hp => ?_
  by_contra hlong
  have hmishap : f.carried t.sites = .host .tooManyDigits :=
    Fault.carried_of_not_isWritable harity hpos hp (by simpa using hlong)
  rw [hmishap] at hplace
  rcases List.mem_append.mp (List.mem_of_find?_eq_some hp) with hasker | hcall
  · obtain ⟨n, hn, rfl⟩ : ∃ n, t.core.current = some n ∧ n.place = p := by
      cases hmove : t.move with
      | has | invoke => simpa [asker, hmove] using hasker
      | _ => simp [asker, hmove] at hasker
    rw [hn] at hplace
    exact hlong hplace
  · obtain ⟨e, he, rfl⟩ := List.mem_map.mp hcall
    exact hlong (hcalls e he)

/-! ### Runs -/

/-- Statements that follow others are carried out from where these return. -/
theorem exec_append (eval : Node → Eval V W V) (last : V) (nodes others : List Node) :
    exec eval last (nodes ++ others) = exec eval last nodes >>= fun v => exec eval v others := by
  induction nodes generalizing last with
  | nil => simp only [List.nil_append, exec, pure_bind]
  | cons n nodes ih =>
    simp only [List.cons_append, exec, bind_assoc]
    congr 1
    funext v
    exact ih v

namespace Runner

variable (r : Runner V W) (tracing : Tracing) (fuel : Nat) (p : Program) (w : W)

/-- **What follows statements that fail is never reached.** -/
theorem run_append (file : String) (nodes others : List Node)
    (h : ∀ v, (r.run tracing fuel (.program ⟨file, nodes⟩) w).ending ≠ .finished v) :
    r.run tracing fuel (.program ⟨file, nodes ++ others⟩) w =
      r.run tracing fuel (.program ⟨file, nodes⟩) w := by
  have happend : (⟨file, nodes ++ others⟩ : Program).eval r.bridge fuel =
      (⟨file, nodes⟩ : Program).eval r.bridge fuel >>= fun v =>
        exec (eval r.bridge fuel) v others := exec_append _ _ _ _
  simp only [run_program, happend] at h ⊢
  cases heval : (⟨file, nodes⟩ : Program).eval r.bridge fuel (r.start tracing w) with
  | ok v c =>
    rw [heval] at h
    exact absurd rfl (h v)
  | error e c => rw [bind_of_error heval]

/-- How a run ends is settled by whether its fault can be reported. -/
theorem ending_eq_failed_iff {f : Fault} {current : Option Node} {calls : List CallEntry}
    {failure : Failure} : (ending f current calls : Ending V) = .failed failure ↔
      f.failure current calls = .ok failure := by
  unfold ending
  cases f.failure current calls <;> simp

/-- The only way to keep a fault from being reported is that it is too long to be written. -/
theorem ending_of_not_failed {f : Fault} {current : Option Node} {calls : List CallEntry}
    (h : ∀ failure, (ending f current calls : Ending V) ≠ .failed failure) :
    (ending f current calls : Ending V) = .escaped (.host .tooManyDigits) := by
  cases hf : f.failure current calls with
  | ok failure => exact absurd (ending_eq_failed_iff.mpr hf) (h failure)
  | error m =>
    obtain rfl : m = .tooManyDigits := by
      simp only [Fault.failure] at hf
      split at hf
      · cases hf
      · exact (Except.error.inj hf).symm
    simp only [ending, hf]

/-- **A run ends at a turn**, where the surroundings have raised a fault and are in some state. -/
structure EndsAt (t : Turn V W) (f : Fault) (w' : W) : Prop where
  /-- Nothing is done after the turn. -/
  last : ∃ before, p.turns r.bridge fuel (r.start tracing w) = before ++ [t]
  /-- The evaluation ends in the fault, as it comes out of the calls around, and the core is as it
  was at the turn. -/
  eval_eq : p.eval r.bridge fuel (r.start tracing w) =
    .error (.fault (f.carried t.sites)) (t.core.inWorld w')
  /-- What comes out is the fault that was raised, unless it is a wrong number of arguments and the
  first line that it meets cannot be written. -/
  kept_iff : f.Kept t.sites (f.carried t.sites) ↔
    (f.isArity = true → f.isPositioned = false →
      ∀ p, t.sites.find? Place.isPositioned = some p → p.isWritable = true)
  /-- The run has put out what was put out at the end of the turn. -/
  run_eq : r.run tracing fuel (.program p) w =
    ⟨ending (f.carried t.sites) t.core.current t.core.calls, r.bridge.effects w',
      some (t.core.inWorld w'), w'⟩
  /-- The run fails exactly when its report can be written. -/
  failed_iff : (∃ failure, (r.run tracing fuel (.program p) w).ending = .failed failure) ↔
    (f.carried t.sites).isWritable = true ∧
      ((f.carried t.sites).reportedAt t.core.current).isWritable = true ∧
      ∀ e ∈ t.core.calls, e.site.isWritable = true
  /-- What it fails with is the fault that was raised. -/
  kept_of_failed : ∀ failure, (r.run tracing fuel (.program p) w).ending = .failed failure →
    f.Kept t.sites (f.carried t.sites) ∧
      (f.carried t.sites).failure t.core.current t.core.calls = .ok failure
  /-- Otherwise all that is left is that something is too long to be written. -/
  escaped_of_not_failed :
    (∀ failure, (r.run tracing fuel (.program p) w).ending ≠ .failed failure) →
      (r.run tracing fuel (.program p) w).ending = .escaped (.host .tooManyDigits)

/-- **A fault of the surroundings is final.** If the surroundings raise a fault at some turn of a
run, then the run ends at that turn. And statements that fail are the end of every program that
begins with them. -/
theorem failure_final (r : Runner V W) (tracing : Tracing) (fuel : Nat) (w : W) :
    (∀ (p : Program) (t : Turn V W) (f : Fault) (w' : W),
      t ∈ p.turns r.bridge fuel (r.start tracing w) → t.raised? r.bridge = some (f, w') →
      r.EndsAt tracing fuel p w t f w') ∧
    ∀ (file : String) (P Q : List Node),
      (∀ v, (r.run tracing fuel (.program ⟨file, P⟩) w).ending ≠ .finished v) →
      r.run tracing fuel (.program ⟨file, P ++ Q⟩) w =
        r.run tracing fuel (.program ⟨file, P⟩) w := by
  refine ⟨fun p t f w' ht hf => ?_, fun file P Q => r.run_append tracing fuel w file P Q⟩
  have hfresh : (r.start tracing w).calls = [] := rfl
  obtain ⟨hlast, heval⟩ := Program.eval_of_raised hfresh ht hf
  have hrun : r.run tracing fuel (.program p) w =
      ⟨ending (f.carried t.sites) t.core.current t.core.calls, r.bridge.effects w',
        some (t.core.inWorld w'), w'⟩ := by
    rw [run_program, heval]
    rfl
  refine ⟨hlast, heval, Fault.kept_carried_iff, hrun, ?_, ?_, ?_⟩
  · rw [hrun, ← Fault.exists_failure_iff]
    exact exists_congr fun failure => ending_eq_failed_iff
  · intro failure hfailed
    rw [hrun] at hfailed
    have hfailure := ending_eq_failed_iff.mp hfailed
    exact ⟨Turn.kept_of_failure hfailure, hfailure⟩
  · rw [hrun]
    exact ending_of_not_failed

/-- A function that asks for a length without saying of what, and a call of it. -/
def slip : Program :=
  ⟨"slip", [
    .define ⟨.str "slip", .int 1⟩ "f" []
      [.assign ⟨.str "slip", .int 2⟩ "x" (.call ⟨.str "slip", .int 3⟩ "len" [])],
    .call ⟨.str "slip", .int 4⟩ "f" []]⟩

theorem failure_final_of_slip :
    let r := Runner.mk Bridges.reflective "slip" 64
    let w := World.start .standard ""
    let more := [Node.var ⟨.str "slip", .int 5⟩ "gets"]
    (∃ t f w', t ∈ slip.turns r.bridge 6 (r.start .off w) ∧ t.raised? r.bridge = some (f, w') ∧
      r.EndsAt .off 6 slip w t f w') ∧
    (∀ v, (r.run .off 6 (.program slip) w).ending ≠ .finished v) ∧
    r.run .off 6 (.program ⟨"slip", slip.body ++ more⟩) w = r.run .off 6 (.program slip) w := by
  intro r w more
  have hraises : ((slip.turns r.bridge 6 (r.start .off w)).any fun t =>
      (t.raised? r.bridge).isSome) = true := by decide +kernel
  have hfails : (r.run .off 6 (.program slip) w).ending.failure?.map Failure.message =
      some "in slip:3: wrong # of arg for len() (0 for 1)" := by decide +kernel
  have hunfinished (v : Value) : (r.run .off 6 (.program slip) w).ending ≠ .finished v := by
    intro hv
    rw [hv] at hfails
    cases hfails
  obtain ⟨t, ht, hsome⟩ := List.any_eq_true.mp hraises
  obtain ⟨⟨f, w'⟩, hf⟩ := Option.isSome_iff_exists.mp hsome
  obtain ⟨hends, happend⟩ := failure_final r .off 6 w
  exact ⟨⟨t, f, w', ht, hf, hends slip t f w' ht hf⟩, hunfinished,
    happend "slip" slip.body more hunfinished⟩

/-- The same call, at a line that is too long to be written. -/
def farOff : Program := ⟨"-", [.call ⟨.str "-", .int (Nat.pow 16 3600)⟩ "len" []]⟩

/-- **The fault of such a call is lost.** What the surroundings raise is a wrong number of
arguments, and what comes out of the call, and of the run, is not. -/
theorem failure_replaced :
    let r := Runner.mk Bridges.reflective "-" 64
    let w := World.start .standard ""
    ∃ t f w', t ∈ farOff.turns r.bridge 2 (r.start .off w) ∧ t.raised? r.bridge = some (f, w') ∧
      f.isArity = true ∧ f.message = "wrong # of arg for len() (0 for 1)" ∧
      farOff.eval r.bridge 2 (r.start .off w) =
        .error (.fault (.host .tooManyDigits)) (t.core.inWorld w') ∧
      (r.run .off 2 (.program farOff) w).ending = .escaped (.host .tooManyDigits) ∧
      ¬ f.Kept t.sites (.host .tooManyDigits) := by
  intro r w
  have hraises : ((farOff.turns r.bridge 2 (r.start .off w)).any fun t =>
      (t.raised? r.bridge).any (fun e => e.1.isArity && !e.1.isPositioned &&
        e.1.message == "wrong # of arg for len() (0 for 1)") &&
      (t.sites.find? Place.isPositioned).any fun p => !p.isWritable) = true := by decide +kernel
  simp only [List.any_eq_true, Bool.and_eq_true, Option.any_eq_true, Bool.not_eq_true',
    beq_iff_eq] at hraises
  obtain ⟨t, ht, ⟨⟨f, w'⟩, hf, ⟨harity, hplace⟩, hmessage⟩, p, hfirst, hlong⟩ := hraises
  have hcarried : f.carried t.sites = .host .tooManyDigits :=
    Fault.carried_of_not_isWritable harity hplace hfirst hlong
  have hlost : ¬ f.Kept t.sites (.host .tooManyDigits) := by
    rw [← hcarried, Fault.kept_carried_iff]
    intro hkept
    rw [hkept harity hplace p hfirst] at hlong
    cases hlong
  obtain ⟨-, heval⟩ := Program.eval_of_raised rfl ht hf
  rw [hcarried] at heval
  refine ⟨t, f, w', ht, hf, harity, hmessage, heval, ?_, hlost⟩
  rw [run_program, heval]
  refine ending_of_not_failed fun failure hfailed => hlost ?_
  -- a report would have kept the fault
  have hfailure := ending_eq_failed_iff.mp hfailed
  rw [← hcarried] at hfailure ⊢
  exact Turn.kept_of_failure hfailure

end Runner

end Treewalk
