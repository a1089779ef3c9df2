import Treewalk.Proofs.Ceiling
import Treewalk.Proofs.Finality
import Treewalk.Proofs.Termination

/-!
# The order of definitions

A definition is carried out where it stands, and adds a function to the table. The table is only
ever looked up, and a name that is taken cannot be defined a second time; so for definitions of
different names, at the beginning of a program, it does not matter in which order they are written.
Nor do further definitions matter, of names that the program does not mention.

What is left of the difference once such definitions have been carried out is a difference in the
function table, in which all names that the program mentions mean the same
(`Treewalk.Core.Rearranged`), and in the node that was noted last. The first is a mirror for the
nodes of the program (`Treewalk.Core.Rearranged.mirror`). The second is not seen by what follows,
since a node is noted before anything is done with it (`Treewalk.eval_visited`).

* **`Treewalk.Runner.definitions_rearranged`**: the law for runs of two programs whose definitions
  are arranged in different ways.
-/

namespace Treewalk

open Treewalk.Core

variable {V W α β : Type}

/-! ### Definitions -/

/-- A definition, as a statement of a program. -/
structure Definition where
  place : Place
  name : String
  params : List String
  body : List Node

namespace Definition

/-- The node of a definition. -/
def node (e : Definition) : Node := .define e.place e.name e.params e.body

/-- What a definition adds to the function table. -/
def entry (e : Definition) : String × Function := (e.name, ⟨e.name, e.params, e.body, e.place⟩)

end Definition

/-- **No node of a tree mentions any of some names**, in a call, as a bare name or in a
definition. -/
def Unmentioned (names : List String) (tree : List Node) : Prop :=
  ∀ n : Node, n.Occurs tree → ∀ name, n.mentioned? = some name → name ∉ names

/-! ### Tables in another order -/

/-- The order of a table does not matter, if its keys are different. -/
theorem lookup_eq_of_perm {table table' : List (String × α)} (h : table.Perm table')
    (hkeys : (table.map Prod.fst).Nodup) (name : String) :
    table'.lookup name = table.lookup name := by
  induction h with
  | nil => rfl
  | cons e _ ih =>
    have hrest := (List.nodup_cons.mp hkeys).2
    rw [List.lookup_cons, List.lookup_cons, ih hrest]
  | swap e e' rest =>
    obtain ⟨⟨hne, -⟩, -⟩ : (e'.1 ≠ e.1 ∧ _) ∧ _ := by simpa using hkeys
    rw [List.lookup_cons, List.lookup_cons, List.lookup_cons, List.lookup_cons]
    cases he : name == e.1 with
    | false => rfl
    | true =>
      obtain rfl : name = e.1 := by simpa using he
      rw [beq_false_of_ne hne.symm]
  | trans h₁ _ ih₁ ih₂ =>
    have hkeys' := ((h₁.map Prod.fst).nodup_iff).mp hkeys
    exact (ih₂ hkeys').trans (ih₁ hkeys)

namespace Core

/-! ### Cores with another table -/

/-- A core with another function table. -/
@[simps]
def withTable (table : List (String × Function)) (c : Core V W) : Core V W :=
  { c with functions := table }

section WithTable

variable (table : List (String × Function)) (c : Core V W)

theorem withTable_noted (line : TraceLine) :
    (c.noted line).withTable table = (c.withTable table).noted line := by
  unfold noted withTable
  split <;> rfl

theorem withTable_entered (name : String) (site : Option Place) :
    (c.entered name site).withTable table = (c.withTable table).entered name site :=
  (c.pushed name site).withTable_noted table _

theorem withTable_left : c.left.withTable table = (c.withTable table).left := by
  unfold left
  cases hb : c.below with
  | nil => simp only [withTable, hb]
  | cons f rest =>
    have hb' : (c.withTable table).below = f :: rest := hb
    simp only [hb']
    exact withTable_noted table _ _

end WithTable

/-- **A core with a rearranged table**: every name that a tree mentions means the same, and nothing
else is different but the trace. The functions of the first core are made of nodes of the tree. -/
structure Rearranged (tree : List Node) (c d : Core V W) : Prop where
  likeness : Likeness id Eq Eq c (d.withTable c.functions)
  found {n : Node} {name : String} : n.Occurs tree → n.mentioned? = some name →
    d.functions.lookup name = c.functions.lookup name
  inTree : c.InTree tree

namespace Rearranged

variable {tree : List Node} {c d : Core V W}

/-- What changes the tables in the same way keeps the relation. -/
theorem of_likeness {c' d' : Core V W} (h : Rearranged tree c d)
    (hlike : Likeness id Eq Eq c' (d'.withTable c'.functions)) (hc : c'.functions = c.functions)
    (hd : d'.functions = d.functions) : Rearranged tree c' d' :=
  ⟨hlike, fun hn hname => by rw [hc, hd, h.found hn hname], h.inTree.of_eq hc⟩

theorem depth_eq (h : Rearranged tree c d) : d.depth = c.depth := h.likeness.depth_eq

theorem activation_eq (h : Rearranged tree c d) : d.activation = c.activation :=
  h.likeness.activation_eq

theorem noted (h : Rearranged tree c d) (line line' : TraceLine) :
    Rearranged tree (c.noted line) (d.noted line') := by
  refine h.of_likeness ?_ (by simp) (by simp)
  rw [withTable_noted, noted_functions]
  exact h.likeness.noted line line'

theorem entered (h : Rearranged tree c d) (name : String) (site : Option Place) :
    Rearranged tree (c.entered name site) (d.entered name site) := by
  refine h.of_likeness ?_ (by simp) (by simp)
  rw [withTable_entered, entered_functions]
  exact h.likeness.entered name site

theorem left (h : Rearranged tree c d) : Rearranged tree c.left d.left := by
  refine h.of_likeness ?_ (by simp) (by simp)
  rw [withTable_left, left_functions]
  exact h.likeness.left

theorem inWorld (h : Rearranged tree c d) (w : W) : Rearranged tree (c.inWorld w) (d.inWorld w) :=
  h.of_likeness (h.likeness.inWorld rfl) rfl rfl

/-- A definition of the tree means the same in both tables. -/
theorem defined (h : Rearranged tree c d) {place : Place} {name : String} {params : List String}
    {body : List Node} (hn : Node.Occurs tree (.define place name params body)) :
    Rearranged tree (c.defined name ⟨name, params, body, place⟩)
      (d.defined name ⟨name, params, body, place⟩) := by
  refine ⟨?_, fun hn hname => ?_, h.inTree.defined hn⟩
  · exact ⟨by simpa using h.likeness.limit, rfl, by simpa using h.likeness.frame_eq,
      by simpa using h.likeness.below_eq, by simpa using h.likeness.calls_eq,
      by simpa using h.likeness.current_eq, by simpa using h.likeness.world⟩
  · rw [defined_functions, defined_functions, List.lookup_append, List.lookup_append,
      h.found hn hname]

/-- The same surroundings give the same answers. -/
theorem ask (h : Rearranged tree c d) (x : Ask W α) :
    Image id (Rearranged tree) (Core.ask x c) (Core.ask x d) := by
  have hworld : c.world = d.world := h.likeness.world
  cases hx : x c.world with
  | ok a w =>
    rw [ask_of_ok hx, ask_of_ok (hworld ▸ hx)]
    exact .ok (h.inWorld w)
  | error f w =>
    rw [ask_of_error hx, ask_of_error (hworld ▸ hx)]
    exact .error (h.inWorld w)

/-- **Rearranged tables mirror each other** for the nodes of the tree. -/
theorem mirror (b : Bridge V W) (tree : List Node) :
    MirrorFor (Node.Occurs tree) True id b b (Rearranged tree) where
  weaken h := h
  body h hf := h.inTree _ _ hf
  room {c d} h := (Likeness.mirror_self b).room (d := d.withTable c.functions) h.likeness
  full {c d} hP h := (Likeness.mirror_self b).full (d := d.withTable c.functions) hP h.likeness
  noted line line' h := h.noted line line'
  entered name site h := h.entered name site
  left _ h' _ _ := h'.left
  part hm hn := .child hm (Node.mem_children_of_mem_parts hn)
  found h hn hname := h.found hn hname
  nil_eq := rfl
  literal_eq _ := rfl
  environment_eq := rfl
  frame_eq h := h.likeness.frame_eq
  visited n h := h.of_likeness ((Likeness.mirror_self b).visited n h.likeness) rfl rfl
  assigned name v h := h.of_likeness ((Likeness.mirror_self b).assigned name v h.likeness) rfl rfl
  bound params args h :=
    h.of_likeness ((Likeness.mirror_self b).bound params args h.likeness) rfl rfl
  defined hn h := h.defined hn
  text {c d} s h := by
    have hworld : c.world = d.world := h.likeness.world
    rw [make_apply, make_apply, hworld]
    exact .ok (h.inWorld _)
  has target name h := h.ask _
  invoke target name args h := by
    rw [List.map_id, h.activation_eq]
    exact h.ask _
  truthy v h := h.ask _

end Rearranged

/-! ### Carrying out definitions -/

/-- The core after definitions were carried out, one after the other. -/
def registered (ds : List Definition) (c : Core V W) : Core V W :=
  ds.foldl (fun c e => (c.visited e.node).defined e.name e.entry.2) c

/-- Definitions add their functions to the table, and leave everything else but the trace and the
node that was noted. -/
theorem registered_eq (ds : List Definition) (c : Core V W) :
    ∃ current trace, c.registered ds =
      { c with
        functions := c.functions ++ ds.map Definition.entry
        current := current
        trace := trace } := by
  induction ds generalizing c with
  | nil => exact ⟨c.current, c.trace, by simp [registered]⟩
  | cons e rest ih =>
    obtain ⟨current, trace, h⟩ := ih ((c.visited e.node).defined e.name e.entry.2)
    refine ⟨current, trace, ?_⟩
    rw [show c.registered (e :: rest) = _ from h]
    simp only [defined, noted]
    split <;> simp [Definition.entry]

theorem registered_functions (ds : List Definition) (c : Core V W) :
    (c.registered ds).functions = c.functions ++ ds.map Definition.entry := by
  obtain ⟨current, trace, h⟩ := c.registered_eq ds
  rw [h]

end Core

section Definitions

variable {b : Bridge V W} {fuel : Nat} {ds : List Definition} {c : Core V W}

variable (b fuel) in
/-- **Definitions of different new names succeed**, and nothing is invoked on the way. -/
theorem exec_definitions (hnew : ∀ e ∈ ds, c.functions.lookup e.name = none)
    (hnames : (ds.map Definition.name).Nodup) :
    exec (eval b (fuel + 1)) b.nil (ds.map Definition.node) c = .ok b.nil (c.registered ds) ∧
      invocations (execTurns (eval b (fuel + 1)) (turns b (fuel + 1)) (ds.map Definition.node) c) =
        [] := by
  induction ds generalizing c with
  | nil => exact ⟨rfl, rfl⟩
  | cons e rest ih =>
    have hdefine : eval b (fuel + 1) e.node c =
        .ok b.nil ((c.visited e.node).defined e.name e.entry.2) := by
      have hnone : (c.visited e.node).functions.lookup e.name = none := hnew e (by simp)
      simp only [Definition.node, eval]
      rw [bind_of_ok (visit_apply _ c)]
      exact bind_of_ok (define_of_new hnone)
    obtain ⟨hname, hrest⟩ := List.nodup_cons.mp hnames
    have hnext : ∀ e' ∈ rest,
        ((c.visited e.node).defined e.name e.entry.2).functions.lookup e'.name = none := by
      intro e' he'
      have hne : e'.name ≠ e.name := fun heq => hname (heq ▸ List.mem_map_of_mem he')
      rw [defined_functions, List.lookup_append, visited_functions, hnew e' (by simp [he']),
        List.lookup_cons, beq_false_of_ne hne]
      rfl
    obtain ⟨hexec, hturns⟩ := ih hnext hrest
    rw [List.map_cons, exec, bind_of_ok hdefine, hexec, execTurns, hdefine, after_ok]
    refine ⟨rfl, ?_⟩
    rw [invocations, List.filterMap_append]
    exact hturns

end Definitions

/-! ### The node that was noted before -/

/-- **A computation does not see the node that was noted before it**: it goes the same way, or its
steps are used up before another node is noted. -/
def Blind (x : Eval V W α) (m : Node) (c : Core V W) : Prop :=
  x (c.visited m) = x c ∨
    x (c.visited m) = .error .outOfFuel (c.visited m) ∧ x c = .error .outOfFuel c

namespace Blind

variable {x : Eval V W α} {m : Node} {c : Core V W}

theorem bind (h : Blind x m c) (f : α → Eval V W β) : Blind (x >>= f) m c := by
  rcases h with h | ⟨hcut, hcut'⟩
  · left
    cases hx : x c with
    | ok a c' => rw [bind_of_ok (h.trans hx), bind_of_ok hx]
    | error e c' => rw [bind_of_error (h.trans hx), bind_of_error hx]
  · exact .inr ⟨bind_of_error hcut, bind_of_error hcut'⟩

theorem after_eq (h : Blind x m c) (next : α → Core V W → List β) :
    after (x (c.visited m)) next = after (x c) next := by
  rcases h with h | ⟨hcut, hcut'⟩
  · rw [h]
  · rw [hcut, hcut', after_error, after_error]

end Blind

/-- **The node that was noted before is not seen** by the evaluation of another. -/
theorem eval_visited (b : Bridge V W) (m : Node) (fuel : Nat) : ∀ (n : Node) (c : Core V W),
    Blind (eval b fuel n) m c ∧ turns b fuel n (c.visited m) = turns b fuel n c := by
  induction fuel with
  | zero => exact fun n c => ⟨.inr ⟨rfl, rfl⟩, rfl⟩
  | succ fuel ih =>
    intro n c
    cases n with
    | literal | string | var | assign | define => exact ⟨.inl rfl, rfl⟩
    | cond place test thenBody elseBody =>
      obtain ⟨hblind, hturns⟩ := ih test c
      exact ⟨hblind.bind _, by simp only [turns, hturns, hblind.after_eq]⟩
    | loop place test body =>
      obtain ⟨hblind, hturns⟩ := ih test c
      exact ⟨hblind.bind _, by simp only [turns, hturns, hblind.after_eq]⟩
    | call place name args =>
      cases args with
      | nil => exact ⟨.inl rfl, rfl⟩
      | cons a rest =>
        obtain ⟨hblind, hturns⟩ := ih a c
        have hall : Blind (evalAll (eval b fuel) (a :: rest)) m c := hblind.bind _
        refine ⟨hall.bind _, ?_⟩
        simp only [turns, execTurns, hturns, hblind.after_eq, hall.after_eq]

/-! ### What is seen of an evaluation -/

/-- How a run ends that comes from an evaluation, and the surroundings then. -/
def outcome : EStateM.Result Halt (Core V W) V → Ending V × W
  | .ok v c => (.finished v, c.world)
  | .error (.fault f) c => (Runner.ending f c.current c.calls, c.world)
  | .error .outOfFuel c => (.unfinished, c.world)

/-- The node that was noted before statements is not seen in what comes of them. -/
theorem Program.outcome_visited (b : Bridge V W) (fuel : Nat) (p : Program) (m : Node)
    (c : Core V W) :
    outcome (p.eval b fuel (c.visited m)) = outcome (p.eval b fuel c) ∧
      p.turns b fuel (c.visited m) = p.turns b fuel c := by
  obtain ⟨file, body⟩ := p
  cases body with
  | nil => exact ⟨rfl, rfl⟩
  | cons n rest =>
    obtain ⟨hblind, hturns⟩ := eval_visited b m fuel n c
    refine ⟨?_, ?_⟩
    · have hexec : Blind ((⟨file, n :: rest⟩ : Program).eval b fuel) m c := hblind.bind _
      rcases hexec with h | ⟨hcut, hcut'⟩
      · rw [h]
      · rw [hcut, hcut']
        rfl
    · simp only [Program.turns, execTurns, hturns, hblind.after_eq]

/-- What is mirrored in a rearranged table is not seen to be different. -/
theorem Mirrored.outcome_eq {tree : List Node} {ts ts' : List (Turn V W)}
    {r r' : EStateM.Result Halt (Core V W) V}
    (h : Mirrored id id (Rearranged tree) ts r ts' r') :
    outcome r' = outcome r ∧ invocations ts' = invocations ts := by
  obtain ⟨hturns, hresult⟩ := h
  have hworld {c d : Core V W} (h : Rearranged tree c d) : d.world = c.world :=
    h.likeness.world.symm
  refine ⟨?_, invocations_eq_of_moves (hturns.imp fun t t' ht => ?_)⟩
  · cases hresult with
    | ok h => simp only [outcome, hworld h, id]
    | @error halt c d h =>
      -- a report is made from the fault, the node and the calls
      have hcurrent : d.current = c.current := h.likeness.current_eq
      have hcalls : d.calls = c.calls := h.likeness.calls_eq
      cases halt with
      | fault f => simp only [outcome, hworld h, hcurrent, hcalls]
      | outOfFuel => simp only [outcome, hworld h]
  · exact ⟨ht.1.trans (Move.map_id _), hworld ht.2⟩

/-! ### Programs that begin with definitions -/

theorem execTurns_append {eval : Node → Eval V W V} {seen : Node → Core V W → List (Turn V W)}
    (last : V) (nodes others : List Node) (c : Core V W) :
    execTurns eval seen (nodes ++ others) c =
      execTurns eval seen nodes c ++
        after (exec eval last nodes c) fun _ c => execTurns eval seen others c := by
  induction nodes generalizing last c with
  | nil => rfl
  | cons n rest ih =>
    rw [List.cons_append, execTurns, execTurns, exec, List.append_assoc]
    congr 1
    cases hn : eval n c with
    | ok v c' => rw [bind_of_ok hn, after_ok, after_ok, ih v c']
    | error e c' => rw [bind_of_error hn, after_error, after_error, after_error, List.append_nil]

/-- **Statements behind definitions** are carried out in the core that these leave behind. -/
theorem Program.eval_definitions (b : Bridge V W) (fuel : Nat) {ds : List Definition}
    {c : Core V W} (hnew : ∀ e ∈ ds, c.functions.lookup e.name = none)
    (hnames : (ds.map Definition.name).Nodup) (file : String) (others : List Node) :
    (⟨file, ds.map Definition.node ++ others⟩ : Program).eval b (fuel + 1) c =
        (⟨file, others⟩ : Program).eval b (fuel + 1) (c.registered ds) ∧
      invocations ((⟨file, ds.map Definition.node ++ others⟩ : Program).turns b (fuel + 1) c) =
        invocations ((⟨file, others⟩ : Program).turns b (fuel + 1) (c.registered ds)) := by
  obtain ⟨hexec, hturns⟩ := exec_definitions b fuel hnew hnames
  refine ⟨?_, ?_⟩
  · unfold Program.eval
    rw [exec_append, bind_of_ok hexec]
  · unfold Program.turns
    rw [execTurns_append b.nil, hexec, after_ok, invocations, List.filterMap_append]
    rw [invocations] at hturns
    rw [hturns]
    rfl

/-- **The tables that two arrangements of definitions leave behind** are the same for all that a
tree mentions, if it contains the definitions of the first and does not mention what the second
adds. -/
theorem Core.Rearranged.of_registered {tree : List Node} {D D' E : List Definition}
    (hD : (D.map Definition.name).Nodup) (hE : (E.map Definition.name).Nodup)
    (htree : ∀ e ∈ D, Node.Occurs tree e.node) (hfresh : Unmentioned (E.map Definition.name) tree)
    (hperm : D'.Perm (D ++ E)) (m : Node) {c : Core V W} (hc : c.functions = []) :
    (D'.map Definition.name).Nodup ∧
      Rearranged tree ((c.registered D).visited m) ((c.registered D').visited m) := by
  have hkeys (ds : List Definition) : (ds.map Definition.entry).map Prod.fst =
      ds.map Definition.name := by
    rw [List.map_map]
    rfl
  have hdisjoint : ∀ e ∈ D, e.name ∉ E.map Definition.name := fun e he =>
    hfresh e.node (htree e he) e.name rfl
  have hDE : ((D ++ E).map Definition.name).Nodup := by
    rw [List.map_append, List.nodup_append]
    refine ⟨hD, hE, ?_⟩
    rintro _ hd _ he rfl
    obtain ⟨e, hmem, rfl⟩ := List.mem_map.mp hd
    exact hdisjoint e hmem he
  refine ⟨((hperm.map Definition.name).nodup_iff).mpr hDE, ?_, ?_, ?_⟩
  · obtain ⟨current, trace, h⟩ := c.registered_eq D
    obtain ⟨current', trace', h'⟩ := c.registered_eq D'
    have hid : Frame.map (id : V → V) = id := funext Frame.map_id
    rw [h, h']
    exact ⟨rfl, rfl, (Frame.map_id _).symm, by simp [hid], rfl, rfl, rfl⟩
  · intro n name hn hname
    have hother : (E.map Definition.entry).lookup name = none := by
      rw [List.lookup_eq_none_iff]
      intro _ hentry
      obtain ⟨e, he, rfl⟩ := List.mem_map.mp hentry
      have hne : name ≠ e.name := fun heq =>
        hfresh n hn name hname (heq ▸ List.mem_map_of_mem he)
      simpa [Definition.entry] using hne
    simp only [visited_functions, registered_functions, hc, List.nil_append]
    rw [lookup_eq_of_perm (hperm.map Definition.entry).symm (by rwa [hkeys]), List.map_append,
      List.lookup_append, hother, Option.or_none]
  · intro name f hf n hn
    rw [visited_functions, registered_functions, hc, List.nil_append] at hf
    obtain ⟨e, he, heq⟩ := List.mem_map.mp (mem_of_lookup_eq_some hf)
    cases heq
    exact .child (htree e he) hn

namespace Runner

variable (r : Runner V W) (tracing : Tracing) (fuel : Nat) (p : Program) (w : W)

/-- A run shows what is seen of the evaluation. -/
theorem run_outcome :
    ((r.run tracing fuel (.program p) w).ending, (r.run tracing fuel (.program p) w).world) =
        outcome (p.eval r.bridge fuel (r.start tracing w)) ∧
      (r.run tracing fuel (.program p) w).effects =
        r.bridge.effects (r.run tracing fuel (.program p) w).world := by
  rw [run_program]
  cases p.eval r.bridge fuel (r.start tracing w) with
  | ok v c => exact ⟨rfl, rfl⟩
  | error halt c => cases halt <;> exact ⟨rfl, rfl⟩

/-- **The order of definitions does not matter, nor do others.** Let a program begin with
definitions of different names. Arrange them in any other way, and add further definitions, of
different names that the program does not mention. Then the program runs as before: it ends in the
same way, with the same value or the same report, it puts out the same, and makes the same
invocations, in any surroundings. -/
theorem definitions_rearranged (file : String) {D D' E : List Definition} {rest : List Node}
    (hD : (D.map Definition.name).Nodup) (hE : (E.map Definition.name).Nodup)
    (hfresh : Unmentioned (E.map Definition.name) (D.map Definition.node ++ rest))
    (hperm : D'.Perm (D ++ E)) :
    let job := Job.program ⟨file, D.map Definition.node ++ rest⟩
    let job' := Job.program ⟨file, D'.map Definition.node ++ rest⟩
    (r.run tracing (fuel + 1) job' w).ending = (r.run tracing (fuel + 1) job w).ending ∧
      (r.run tracing (fuel + 1) job' w).effects = (r.run tracing (fuel + 1) job w).effects ∧
      (r.run tracing (fuel + 1) job' w).world = (r.run tracing (fuel + 1) job w).world ∧
      invocations (r.turns tracing (fuel + 1) job' w) =
        invocations (r.turns tracing (fuel + 1) job w) := by
  intro job job'
  have htree : ∀ e ∈ D, Node.Occurs (D.map Definition.node ++ rest) e.node := fun e he =>
    .top (List.mem_append_left _ (List.mem_map_of_mem he))
  have hstart : (r.start tracing w).functions = [] := rfl
  have hnew (ds : List Definition) : ∀ e ∈ ds, (r.start tracing w).functions.lookup e.name = none :=
    fun _ _ => rfl
  -- any node will do: both sides have noted it before the other statements
  obtain ⟨hD', hrearranged⟩ := Rearranged.of_registered hD hE htree hfresh hperm
    (.literal .nowhere .nil) hstart
  obtain ⟨heval, hturns⟩ := Program.eval_definitions r.bridge fuel (hnew D) hD file rest
  obtain ⟨heval', hturns'⟩ := Program.eval_definitions r.bridge fuel (hnew D') hD' file rest
  have hmirrored := (Rearranged.mirror r.bridge _).program (fuel + 1) ⟨file, rest⟩
    (fun n hn => .top (List.mem_append_right _ hn)) hrearranged fun _ _ _ => trivial
  obtain ⟨hsame, hsame'⟩ := hmirrored.outcome_eq
  rw [(Program.outcome_visited _ _ _ _ _).1, (Program.outcome_visited _ _ _ _ _).1, ← heval,
    ← heval'] at hsame
  rw [(Program.outcome_visited _ _ _ _ _).2, (Program.outcome_visited _ _ _ _ _).2, ← hturns,
    ← hturns'] at hsame'
  obtain ⟨hrun, heffects⟩ :=
    r.run_outcome tracing (fuel + 1) ⟨file, D.map Definition.node ++ rest⟩ w
  obtain ⟨hrun', heffects'⟩ :=
    r.run_outcome tracing (fuel + 1) ⟨file, D'.map Definition.node ++ rest⟩ w
  obtain ⟨hending, hworld⟩ := Prod.mk.inj (hrun'.trans (hsame.trans hrun.symm))
  exact ⟨hending, heffects'.trans ((congrArg _ hworld).trans heffects.symm), hworld, hsame'⟩

/-- A function that calls another one, which is defined behind it. -/
def asking : Definition :=
  ⟨.nowhere, "f", ["x"], [.call .nowhere "g" [.var .nowhere "x"]]⟩

/-- The other one. -/
def measuring : Definition :=
  ⟨.nowhere, "g", ["y"], [.call .nowhere "len" [.var .nowhere "y"]]⟩

/-- The value that a run ended with, if it did. -/
def value? {V : Type} : Ending V → Option V
  | .finished v => some v
  | _ => none

theorem eq_of_value?_eq_some {V : Type} {e : Ending V} {v : V} (h : value? e = some v) :
    e = .finished v := by
  cases e with
  | finished => cases h; rfl
  | failed | escaped | unfinished => cases h

/-- A function that nobody calls. -/
def idle : Definition := ⟨.nowhere, "h", [], [.call .nowhere "f" []]⟩

theorem definitions_rearranged_of_idle :
    let r := Runner.mk Bridges.reflective "-" 64
    let w := World.start .standard ""
    let rest := [Node.call .nowhere "f" [.string .nowhere "abc"]]
    let run := r.run .off 6 (.program ⟨"-", [asking, measuring].map Definition.node ++ rest⟩) w
    let run' :=
      r.run .off 6 (.program ⟨"-", [measuring, idle, asking].map Definition.node ++ rest⟩) w
    Unmentioned ["h"] ([asking, measuring].map Definition.node ++ rest) ∧
      run'.ending = run.ending ∧ ∃ v, run.ending = .finished v := by
  intro r w rest run run'
  have hfresh : Unmentioned ["h"] ([asking, measuring].map Definition.node ++ rest) := by
    intro n hn name hname
    simp only [rest, asking, measuring, Definition.node, List.map_cons, List.map_nil,
      List.cons_append, List.nil_append, Node.occurs_cons, Node.children, Node.parts,
      Node.not_occurs_nil, or_false] at hn
    rcases hn with rfl | (rfl | rfl) | rfl | (rfl | rfl) | rfl | rfl <;> cases hname <;> decide
  have hperm : [measuring, idle, asking].Perm ([asking, measuring] ++ [idle]) :=
    (List.perm_append_comm : ([measuring, idle] ++ [asking]).Perm ([asking] ++ [measuring, idle]))
  obtain ⟨v, hv⟩ : ∃ v, value? run.ending = some v :=
    Option.isSome_iff_exists.mp (by decide +kernel)
  obtain ⟨hending, -⟩ := definitions_rearranged r .off 5 w "-" (D := [asking, measuring])
    (E := [idle]) (by decide) (by decide) hfresh hperm
  exact ⟨hfresh, hending, v, eq_of_value?_eq_some hv⟩

end Runner

end Treewalk
