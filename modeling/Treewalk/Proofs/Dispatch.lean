import Treewalk.Host.Reflection
import Treewalk.Proofs.Record

/-!
# Who answers a call

A call goes to a function of the program, else to a routine of the environment, else to the first
argument. The tiers are asked one after the other while functions are still being defined, from any
depth, and the environment itself can be passed around as a value. This file says what holds of
every invocation all the same, for every host that is looked at through a `Treewalk.Reflection`, at
the moment the invocation is made (`Treewalk.Dispatched`).

Two facts about courses carry it. A capability is invoked only after it was offered, in the same
core and for a name that no function has (`Treewalk.Course.offered`); and the function table grows
by appending, so once a name is defined it stays so (`Treewalk.Course.table`).

* **`Treewalk.Reflection.dispatch_sound`**: the whole, for every program and every core.
-/

namespace Treewalk

open Treewalk.Core

variable {V W C : Type}

/-! ### The function table grows -/

/-- A name that is in a table is in every longer one. -/
theorem isSome_lookup_of_prefix {l l' : List (String × Function)} (h : l <+: l') {name : String}
    (hname : (l.lookup name).isSome) : (l'.lookup name).isSome := by
  obtain ⟨f, hf⟩ := Option.isSome_iff_exists.mp hname
  rw [h.lookup_eq_some hf]
  rfl

/-- **One turn comes before another**: the function table has grown since, and what was being
defined is defined. -/
structure Turn.Before (t t' : Turn V W) : Prop where
  table_prefix : t.core.functions <+: t'.core.functions
  isSome_of_define {name : String} : t.move = .define name →
    (t'.core.functions.lookup name).isSome

/-- **What happens to the function table** from one core to another, over the turns in between. -/
structure TableGrows (c : Core V W) (ts : List (Turn V W)) (o : Option Halt) (c' : Core V W) :
    Prop where
  table_prefix : c.functions <+: c'.functions
  prefix_of_mem {t : Turn V W} : t ∈ ts → c.functions <+: t.core.functions ∧
    t.core.functions <+: c'.functions
  pairwise : ts.Pairwise Turn.Before
  isSome_of_define {t : Turn V W} {name : String} : o = none → t ∈ ts → t.move = .define name →
    (c'.functions.lookup name).isSome

namespace TableGrows

variable {c c' c'' : Core V W} {ts ts' : List (Turn V W)} {o : Option Halt}

/-- Nothing is done to the table. -/
theorem of_eq (h : c'.functions = c.functions) : TableGrows c [] o c' :=
  ⟨h ▸ List.prefix_refl _, (nomatch ·), .nil, fun _ => (nomatch ·)⟩

/-- One move. If it is a definition and nothing halts, the name is defined afterwards. -/
theorem single {move : Move V} (h : c.functions <+: c'.functions)
    (hdefine : ∀ name, o = none → move = .define name → (c'.functions.lookup name).isSome) :
    TableGrows c [⟨c, move⟩] o c' where
  table_prefix := h
  prefix_of_mem ht := by
    obtain rfl := List.mem_singleton.mp ht
    exact ⟨List.prefix_refl _, h⟩
  pairwise := List.pairwise_singleton _ _
  isSome_of_define ho ht hmove := by
    obtain rfl := List.mem_singleton.mp ht
    exact hdefine _ ho hmove

/-- A move that is no definition does nothing to the table. -/
theorem of_move {move : Move V} (h : c'.functions = c.functions)
    (hmove : ∀ name, move ≠ .define name) : TableGrows c [⟨c, move⟩] o c' :=
  .single (h ▸ List.prefix_refl _) fun name _ hdefine => absurd hdefine (hmove name)

/-- How it halts does not matter, as long as it does. -/
theorem of_halt {o' : Option Halt} (h : TableGrows c ts o c') (ho : o' = none → o = none) :
    TableGrows c ts o' c' :=
  ⟨h.table_prefix, h.prefix_of_mem, h.pairwise, fun h' => h.isSome_of_define (ho h')⟩

/-- **One stretch after another.** -/
theorem append (h : TableGrows c ts none c') (h' : TableGrows c' ts' o c'') :
    TableGrows c (ts ++ ts') o c'' where
  table_prefix := h.table_prefix.trans h'.table_prefix
  prefix_of_mem ht := by
    rcases List.mem_append.mp ht with ht | ht
    · obtain ⟨hfirst, hsecond⟩ := h.prefix_of_mem ht
      exact ⟨hfirst, hsecond.trans h'.table_prefix⟩
    · obtain ⟨hfirst, hsecond⟩ := h'.prefix_of_mem ht
      exact ⟨h.table_prefix.trans hfirst, hsecond⟩
  pairwise := by
    refine List.pairwise_append.mpr ⟨h.pairwise, h'.pairwise, fun t ht t' ht' => ?_⟩
    -- the core between the two stretches has what the first one defined
    have hlater := (h'.prefix_of_mem ht').1
    exact ⟨(h.prefix_of_mem ht).2.trans hlater, fun hdefine =>
      isSome_lookup_of_prefix hlater (h.isSome_of_define rfl ht hdefine)⟩
  isSome_of_define ho ht hdefine := by
    rcases List.mem_append.mp ht with ht | ht
    · exact isSome_lookup_of_prefix h'.table_prefix (h.isSome_of_define rfl ht hdefine)
    · exact h'.isSome_of_define ho ht hdefine

end TableGrows

/-- **Along a course the function table grows by appending.** -/
theorem Course.table {b : Bridge V W} {s : Subject V} {c c' : Core V W} {ts : List (Turn V W)}
    {o : Option Halt} (h : Course b s c ts o c') : TableGrows c ts o c' := by
  have asked {α : Type} (c : Core V W) (x : Ask W α) :
      (coreOf (ask x c)).functions = c.functions := by
    rw [coreOf_ask, inWorld_functions]
  induction h with
  | rest | cut | visit | make | unresolved => exact .of_eq rfl
  | next _ _ ih ih' => exact ih.append ih'
  | note => exact .of_eq (by simp)
  | assign => exact .of_move rfl (by simp)
  | @define _ inner c place name params _ _ hnew =>
    refine .single (by simp) ?_
    rintro _ - ⟨⟩
    simp [List.lookup_append, hnew]
  | conflict => exact .single (List.prefix_refl _) fun _ ho => nomatch ho
  | truthy v => exact .of_move (asked _ _) (by simp)
  | call _ _ _ _ ih => exact ih.of_halt Option.map_eq_none_iff.mp
  | tooDeep => exact .of_move rfl (by simp)
  | arity => exact .of_move (by simp) (by simp)
  | inside _ _ _ _ ih => exact TableGrows.append (.of_move (by simp) (by simp)) ih
  | through _ _ _ _ ih =>
    exact TableGrows.append (.of_move (by simp) (by simp))
      (ih.append (.of_move (by simp) (by simp)))
  | has target => exact .of_move (asked _ _) (by simp)
  | invoke => exact .of_move (asked _ _) (by simp)

/-- **Nodes and functions that belong together**: what holds of a node holds of its parts, a
definition makes a function of the kind, and the body of such a function consists of such nodes. -/
structure Hereditary (Q : Node → Prop) (P : String × Function → Prop) : Prop where
  part {m n : Node} : Q m → n ∈ m.parts → Q n
  define {place : Place} {name : String} {params : List String} {body : List Node} :
    Q (.define place name params body) → P (name, ⟨name, params, body, place⟩)
  body {e : String × Function} : P e → ∀ n ∈ e.2.body, Q n

theorem Hereditary.within {Q : Node → Prop} {P : String × Function → Prop} (hQ : Hereditary Q P)
    {body : List Node} {n : Node} (h : n.Within body) (hbody : ∀ m ∈ body, Q m) : Q n := by
  induction h with
  | top hn => exact hbody _ hn
  | part _ hn ih => exact hQ.part ih hn

/-- What is carried out consists of nodes of a kind. A call consists of none. -/
def Subject.All (Q : Node → Prop) : Subject V → Prop
  | .body nodes => ∀ n ∈ nodes, Q n
  | .call _ _ _ => True

/-- **Along a course only functions of the kind are defined.** -/
theorem Course.functions_all {Q : Node → Prop} {P : String × Function → Prop}
    (hQ : Hereditary Q P) {b : Bridge V W} {s : Subject V} {c c' : Core V W}
    {ts : List (Turn V W)} {o : Option Halt} (h : Course b s c ts o c') (hs : s.All Q)
    (hc : ∀ e ∈ c.functions, P e) : ∀ e ∈ c'.functions, P e := by
  have asked {α : Type} (c : Core V W) (x : Ask W α) (hc : ∀ e ∈ c.functions, P e) :
      ∀ e ∈ (coreOf (ask x c)).functions, P e := by
    rwa [coreOf_ask, inWorld_functions]
  have found {c : Core V W} {name : String} {f : Function} (hc : ∀ e ∈ c.functions, P e)
      (hf : c.functions.lookup name = some f) : ∀ n ∈ f.body, Q n := by
    obtain ⟨l₁, l₂, htable, -⟩ := List.lookup_eq_some_iff.mp hf
    exact hQ.body (hc (name, f) (by simp [htable]))
  induction h with
  | rest | cut | visit | make | assign | conflict | unresolved | tooDeep => exact hc
  | next _ _ ih ih' => exact ih' hs (ih hs hc)
  | note => simpa using hc
  | define hn =>
    intro e he
    rw [defined_functions, List.mem_append, List.mem_singleton] at he
    rcases he with he | rfl
    · exact hc e he
    · exact hQ.define (hQ.within hn hs)
  | truthy => exact asked _ _ hc
  | call _ _ _ _ ih => exact ih trivial hc
  | arity => simpa using hc
  | inside hf _ _ _ ih => exact ih (found hc hf) (by simpa using hc)
  | through hf _ _ _ ih => simpa using ih (found hc hf) (by simpa using hc)
  | has => exact asked _ _ hc
  | invoke => exact asked _ _ hc

/-! ### Every invocation was offered -/

/-- **Along a course a capability is invoked only after it was offered**, in the surroundings of
that moment, and for a name that no function has. -/
theorem Course.offered {b : Bridge V W} {s : Subject V} {c c' : Core V W} {ts : List (Turn V W)}
    {o : Option Halt} (h : Course b s c ts o c') : ∀ t ∈ ts, ∀ call target args,
      t.move = .invoke call target args →
        t.core.functions.lookup call.name = none ∧ Offered b call target args t.core.world := by
  induction h with
  | rest | cut | note | visit | make | unresolved => simp
  | next _ _ ih ih' =>
    intro t ht
    rcases List.mem_append.mp ht with ht | ht
    · exact ih t ht
    · exact ih' t ht
  | assign | define | conflict | truthy | tooDeep | arity | has => simp
  | call _ _ _ _ ih => exact ih
  | inside _ _ _ _ ih => simpa using ih
  | through _ _ _ _ ih =>
    intro t ht
    rcases List.mem_cons.mp ht with rfl | ht
    · simp
    · rcases List.mem_append.mp ht with ht | ht
      · exact ih t ht
      · obtain rfl := List.mem_singleton.mp ht
        simp
  | invoke _ hnone hoffered =>
    intro t ht
    obtain rfl := List.mem_singleton.mp ht
    rintro _ _ _ ⟨⟩
    exact ⟨hnone, hoffered⟩

/-! ### Hosts that are looked at -/

/-- The names of operators are public. -/
theorem Operator.not_startsWith_of_ofName {name : String} {op : Operator}
    (h : Operator.ofName? name = some op) : name.startsWith "_" = false := by
  obtain ⟨l₁, l₂, htable, -⟩ := List.lookup_eq_some_iff.mp h
  have hmem : name ∈ Operator.table.map (·.1) := by simp [htable]
  -- the table is finite, so its names can be looked through
  have hpublic : ∀ n ∈ Operator.table.map (·.1), n.startsWith "_" = false := by decide +kernel
  exact hpublic name hmem

namespace Reflection

variable (r : Reflection V W C)

/-- A host is looked at without being changed. -/
theorem has_eq_ok {target : V} {name : String} {known : Bool} {w w' : W}
    (h : r.bridge.has target name w = .ok known w') :
    (r.capability? w target name).isSome = known ∧ w' = w := by
  have hhas : r.bridge.has target name w = .ok (r.capability? w target name).isSome w := rfl
  rw [hhas] at h
  cases h
  exact ⟨rfl, rfl⟩

/-- A capability that is there is carried out. -/
theorem invoke_of_capability {activation : Activation} {target : V} {name : String} {args : List V}
    {w : W} {cap : C} (h : r.capability? w target name = some cap) :
    r.bridge.invoke activation target name args w = r.perform cap activation name args w := by
  have hget (f : W → Ask W V) : (get >>= f) w = f w w := rfl
  simp only [bridge, hget, h]

/-- A capability that is not there is refused. -/
theorem invoke_of_no_capability {activation : Activation} {target : V} {name : String}
    {args : List V} {w : W} (h : r.capability? w target name = none) :
    r.bridge.invoke activation target name args w =
      .error (.host (.noCapability (r.typeName w target) name)) w := by
  have hget (f : W → Ask W V) : (get >>= f) w = f w w := rfl
  simp only [bridge, hget, h]
  rfl

/-- What a value has is public. -/
theorem public_of_valueCapability {w : W} {v : V} {name : String}
    (h : (r.valueCapability? w v name).isSome) : name.startsWith "_" = false := by
  simp only [valueCapability?] at h
  split at h
  · next op hop =>
    exact Operator.not_startsWith_of_ofName (Option.filter_eq_some_iff.mp hop).1
  · split at h
    · cases h
    · next hprivate => exact Bool.eq_false_iff.mpr hprivate

/-- The environment has its routines and nothing else. -/
theorem routine_of_capability {w : W} {target : V} {name : String}
    (htarget : r.isEnvironment target = true) (h : (r.capability? w target name).isSome) :
    (r.registered? w name).isSome ∨ (r.marked? w name).isSome := by
  rw [capability?, if_pos htarget, routine?, Option.isSome_or, Bool.or_eq_true] at h
  exact h

theorem public_of_capability {w : W} {target : V} {name : String}
    (htarget : r.isEnvironment target = false) (h : (r.capability? w target name).isSome) :
    name.startsWith "_" = false := by
  rw [capability?, if_neg (by simp [htarget])] at h
  exact r.public_of_valueCapability h

/-- **An invocation on behalf of a call is in order**, in the core in which it is made. -/
structure Dispatched (c : Core V W) (call : Request V) (target : V) (args : List V) : Prop where
  /-- No function of the program has the name. -/
  undefined : c.functions.lookup call.name = none
  /-- The target is the environment, which takes all arguments; or the environment has nothing of
  that name, and the target is the first argument, which takes the others. -/
  target_eq : (target = r.environment ∧ args = call.args) ∨
    (r.capability? c.world r.environment call.name = none ∧ call.args = target :: args)
  /-- The target says that it has the capability. -/
  has_eq : r.bridge.has target call.name c.world = .ok true c.world
  /-- The capability is carried out: it is not missing. -/
  invoke_eq : ∃ cap, r.capability? c.world target call.name = some cap ∧
    r.bridge.invoke c.activation target call.name args c.world =
      r.perform cap c.activation call.name args c.world
  /-- Of the environment only routines are invoked. -/
  routine : r.isEnvironment target = true →
    (r.registered? c.world call.name).isSome ∨ (r.marked? c.world call.name).isSome
  /-- Of other values nothing private is invoked. -/
  isPublic : r.isEnvironment target = false → call.name.startsWith "_" = false

/-- What was offered is in order. -/
theorem dispatched_of_offered {c : Core V W} {call : Request V} {target : V} {args : List V}
    (hnone : c.functions.lookup call.name = none)
    (h : Offered r.bridge call target args c.world) : r.Dispatched c call target args := by
  have hcapability : (r.capability? c.world target call.name).isSome ∧
      ((target = r.environment ∧ args = call.args) ∨
        (r.capability? c.world r.environment call.name = none ∧ call.args = target :: args)) := by
    cases h with
    | routine hhas =>
      obtain ⟨hsome, rfl⟩ := r.has_eq_ok hhas
      exact ⟨hsome, .inl ⟨rfl, rfl⟩⟩
    | receiver hargs henvironment hhas =>
      obtain ⟨hmissing, rfl⟩ := r.has_eq_ok henvironment
      obtain ⟨hsome, rfl⟩ := r.has_eq_ok hhas
      have hnothing : r.capability? c.world r.environment call.name = none :=
        Option.not_isSome_iff_eq_none.mp (Bool.eq_false_iff.mp hmissing)
      exact ⟨hsome, .inr ⟨hnothing, hargs⟩⟩
  obtain ⟨hsome, htarget⟩ := hcapability
  obtain ⟨cap, hcap⟩ := Option.isSome_iff_exists.mp hsome
  exact {
    undefined := hnone
    target_eq := htarget
    has_eq := congrArg (EStateM.Result.ok · c.world) hsome
    invoke_eq := ⟨cap, hcap, r.invoke_of_capability hcap⟩
    routine := fun henvironment => r.routine_of_capability henvironment hsome
    isPublic := fun hother => r.public_of_capability hother hsome }

/-- **Dispatch is sound.** Whatever program is evaluated in whatever core: every invocation is in
order at the moment it is made, and the invocations are those that a recording bridge writes down.
The function table grows by appending from the start to every turn, from every turn to every later
one, and to the end, however the evaluation ends; and once a definition of a name was made, nothing
is invoked by that name. -/
theorem dispatch_sound (fuel : Nat) (p : Program) (c : Core V W) :
    (∀ t ∈ p.turns r.bridge fuel c, ∀ call target args, t.move = .invoke call target args →
        r.Dispatched t.core call target args) ∧
      (coreOf (p.eval r.bridge.recorded fuel (c.beside []))).world.2 =
        (invocations (p.turns r.bridge fuel c)).reverse ∧
      c.functions <+: (coreOf (p.eval r.bridge fuel c)).functions ∧
      (∀ t ∈ p.turns r.bridge fuel c, c.functions <+: t.core.functions ∧
        t.core.functions <+: (coreOf (p.eval r.bridge fuel c)).functions) ∧
      (p.turns r.bridge fuel c).Pairwise fun t t' => t.core.functions <+: t'.core.functions ∧
        ∀ name, t.move = .define name → ∀ call target args, t'.move = .invoke call target args →
          call.name ≠ name := by
  have hcourse := p.eval_follows r.bridge fuel c
  have htable := Course.table hcourse
  have hoffered := Course.offered hcourse
  obtain ⟨-, hrecord⟩ := p.recorded r.bridge fuel [] c
  rw [List.append_nil] at hrecord
  refine ⟨?_, hrecord, htable.table_prefix, fun t ht => htable.prefix_of_mem ht, ?_⟩
  · intro t ht call target args hmove
    obtain ⟨hnone, hoffer⟩ := hoffered t ht call target args hmove
    exact r.dispatched_of_offered hnone hoffer
  · refine htable.pairwise.imp_of_mem fun {t t'} _ ht' hbefore => ⟨hbefore.table_prefix, ?_⟩
    rintro name hdefine call target args hmove rfl
    -- a name that is defined is not offered to anybody
    obtain ⟨hnone, -⟩ := hoffered t' ht' call target args hmove
    simpa [hnone] using hbefore.isSome_of_define hdefine

end Reflection

end Treewalk
