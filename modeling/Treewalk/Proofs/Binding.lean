import Treewalk.Proofs.Dispatch

/-!
# How many arguments a call takes

A call fails if it has a wrong number of arguments, and what it says then is a promise: these are
the counts that would have been right. Two mechanisms see to this. A function of the program
compares two lengths. A capability has a signature, against which the arguments are held, and the
wanted counts are worked out separately, from how many parameters there are of each sort.

Both are compared here with a third thing, which neither of them does: binding the arguments to a
list of parameters, one after another (`Treewalk.Parameter.binds`). A signature that was read off a
list of parameters admits just the arguments that can be bound
(`Treewalk.Signature.accepts_ofParameters`), and so do the counts that it wants
(`Treewalk.Signature.admits_want`), as long as nothing has to be given by name.

* **`Treewalk.Core.function_counted`** and **`Treewalk.Reflection.capability_counted`**: the two
  mechanisms.
* **`Treewalk.arguments_counted`**: whatever takes a call is entered if the arguments can be bound,
  and else refuses them before it does anything.
-/

namespace Treewalk

open Treewalk.Core

variable {V W : Type}

/-! ### Parameters -/

/-- A parameter of a function or of a routine. -/
inductive Parameter where
  /-- An argument that has to be given. -/
  | required
  /-- An argument that can be left out. -/
  | optional
  /-- All arguments that are left. -/
  | rest
  /-- An argument that is given by name only, so that a call never gives it. -/
  | named (hasDefault : Bool)
  deriving DecidableEq, Repr

namespace Parameter

/-- **Whether arguments can be bound to parameters**, from the first to the last. -/
def binds : List Parameter → List V → Bool
  | [], args => args.isEmpty
  | .required :: _, [] => false
  | .required :: ps, _ :: args => binds ps args
  | .optional :: ps, args => binds ps args.tail
  | .rest :: ps, _ => binds ps []
  | .named hasDefault :: ps, args => hasDefault && binds ps args

/-- The place of a sort of parameters among the others. -/
def rank : Parameter → Nat
  | .required => 0
  | .optional => 1
  | .rest => 2
  | .named _ => 3

/-- **Parameters in order**: first those that have to be given, then those that can be left out,
then the one for all that is left, and at last those with a name. -/
def Ordered (ps : List Parameter) : Prop := ps.Pairwise fun p q => p.rank ≤ q.rank

instance (ps : List Parameter) : Decidable (Ordered ps) :=
  inferInstanceAs (Decidable (List.Pairwise _ ps))

/-- Behind a parameter come those of its rank or a higher one. -/
theorem Ordered.count_eq_zero {p q : Parameter} {ps : List Parameter} (h : Ordered (p :: ps))
    (hrank : q.rank < p.rank) : ps.count q = 0 := by
  refine List.count_eq_zero.mpr fun hq => ?_
  have hle := List.rel_of_pairwise_cons h hq
  omega

end Parameter

/-! ### Signatures -/

namespace Signature

/-- The signature of a list of parameters. -/
def ofParameters (ps : List Parameter) : Signature where
  required := ps.count .required
  optional := ps.count .optional
  variadic := ps.contains .rest
  keywordRequired := ps.contains (.named false)

/-- **A signature admits the arguments that can be bound.** -/
theorem accepts_ofParameters {ps : List Parameter} (h : Parameter.Ordered ps) (args : List V) :
    (ofParameters ps).accepts args.length = Parameter.binds ps args := by
  induction ps generalizing args with
  | nil => cases args <;> simp [accepts, ofParameters, Parameter.binds]
  | cons p ps ih =>
    have htail : Parameter.Ordered ps := h.tail
    cases p with
    | required =>
      cases args with
      | nil => simp [accepts, ofParameters, Parameter.binds]
      | cons a args =>
        rw [Parameter.binds, ← ih htail]
        simp [accepts, ofParameters, Nat.add_right_comm]
    | optional =>
      have hrequired := h.count_eq_zero (q := .required) (by decide)
      rw [Parameter.binds, ← ih htail]
      simp [accepts, ofParameters, hrequired]
    | rest =>
      have hrequired := h.count_eq_zero (q := .required) (by decide)
      have hoptional := h.count_eq_zero (q := .optional) (by decide)
      rw [Parameter.binds, ← ih htail]
      simp [accepts, ofParameters, hrequired, hoptional]
    | named hasDefault =>
      rw [Parameter.binds, ← ih htail]
      cases hasDefault <;> simp [accepts, ofParameters]

/-- **The counts that are wanted are those that are admitted**, unless an argument has to be given
by name. -/
theorem admits_want {s : Signature} (h : s.keywordRequired = false) (count : Nat) :
    s.want.Admits count ↔ s.accepts count = true := by
  simp only [want, accepts, h, Bool.not_false, Bool.true_and, Bool.and_eq_true, Bool.or_eq_true,
    decide_eq_true_eq]
  split_ifs with hvariadic hoptional
  · simp [Want.Admits, hvariadic]
  · simp only [Want.Admits, hvariadic, hoptional, Bool.false_eq_true, false_or]
    omega
  · simp only [Want.Admits, hvariadic, Bool.false_eq_true, false_or]

end Signature

/-! ### Counted calls -/

/-- **The arguments of a call are counted**: what takes the call is entered, in the core in which it
is to begin, if the arguments can be bound to its parameters. If not, nothing more is done: the call
fails there and then, and what it says is its name, how many arguments there were, and the counts
with which they could have been bound. -/
structure Counted (name : String) (ps : List Parameter) (args : List V) (body : Eval V W V)
    (start : Core V W) (result : EStateM.Result Halt (Core V W) V) : Prop where
  entered : Parameter.binds ps args = true → result = body start
  refused : Parameter.binds ps args = false →
    result = .error (.fault (.raised
      (.arity name args.length (Signature.ofParameters ps).want) .nowhere)) start
  wanted (others : List V) : (Signature.ofParameters ps).want.Admits others.length ↔
    Parameter.binds ps others = true

/-- The parameters of a function: each has to be given. -/
def Function.parameters (f : Function) : List Parameter :=
  List.replicate f.params.length .required

/-- The work of a function: its parameters are bound, its body is carried out, and its frame is
popped. -/
def Function.work (b : Bridge V W) (eval : Node → Eval V W V) (f : Function) (args : List V) :
    Eval V W V := do
  modify (Core.bound f.params args)
  let v ← exec eval b.nil f.body
  leave
  return v

theorem Function.ordered_parameters (f : Function) : Parameter.Ordered f.parameters :=
  List.pairwise_replicate.mpr (.inr (Nat.le_refl _))

theorem Function.ofParameters_parameters (f : Function) :
    Signature.ofParameters f.parameters = { required := f.params.length } := by
  simp [Signature.ofParameters, parameters, List.count_replicate]

/-- Lists of one length are bound alike, since only the number of arguments matters. -/
theorem Function.binds_parameters (f : Function) (args : List V) :
    Parameter.binds f.parameters args = decide (args.length = f.params.length) := by
  rw [← Signature.accepts_ofParameters f.ordered_parameters, f.ofParameters_parameters]
  simp [Signature.accepts, Nat.le_antisymm_iff, Bool.and_comm]

namespace Core

variable {b : Bridge V W} {eval : Node → Eval V W V} {name : String} {args : List V}
  {site : Option Place} {c start : Core V W} {body : Eval V W V}

/-! A tier that takes a call carries out some body and wraps its value. The call itself and the
tiers before it only unwrap it again. -/

theorem bind_of_eq {α β : Type} {x y : Eval V W α} {next : α → Eval V W β} (h : x c = y start) :
    (x >>= next) c = (y >>= next) start := by
  change EStateM.bind x next c = EStateM.bind y next start
  simp only [EStateM.bind, h]

theorem bind_of_map_some {α : Type} {x : Eval V W (Option V)} {next : Option V → Eval V W α}
    (h : x c = (some <$> body) start) :
    (x >>= next) c = (body >>= fun v => next (some v)) start := by
  rw [bind_of_eq h, bind_map_left]

theorem call_of_resolve (h : resolve b eval name args site c = (some <$> body) start) :
    call b eval name args site c = body start := by
  unfold call
  rw [bind_of_map_some h]
  exact congrFun (bind_pure body) start

theorem resolve_of_function (h : callFunction b eval name args site c = (some <$> body) start) :
    resolve b eval name args site c = (some <$> body) start := by
  unfold resolve
  rw [bind_of_map_some h]
  exact congrFun (bind_pure_comp some body) start

theorem resolve_of_environment (hfunction : c.functions.lookup name = none)
    (h : callEnvironment b name args c = (some <$> body) start) :
    resolve b eval name args site c = (some <$> body) start := by
  unfold resolve
  rw [bind_of_ok (callFunction_of_none hfunction)]
  simp only
  rw [bind_of_map_some h]
  exact congrFun (bind_pure_comp some body) start

theorem resolve_of_receiver (hfunction : c.functions.lookup name = none)
    (henvironment : callEnvironment b name args c = .ok none c)
    (h : callReceiver b name args c = (some <$> body) start) :
    resolve b eval name args site c = (some <$> body) start := by
  unfold resolve
  rw [bind_of_ok (callFunction_of_none hfunction)]
  simp only
  rw [bind_of_ok henvironment]
  exact h

/-- **A function of the program counts its arguments**, if there is room for its frame. -/
theorem function_counted {request : Request V} {f : Function}
    (hf : c.functions.lookup request.name = some f) (hroom : ¬ c.maxDepth ≤ c.depth) :
    Counted request.name f.parameters request.args (f.work b eval request.args)
      ((c.noted (.user request.name request.args.length)).entered request.name site)
      (call b eval request.name request.args site c) := by
  have henter : enter request.name site (c.noted (.user request.name request.args.length)) =
      .ok () ((c.noted (.user request.name request.args.length)).entered request.name site) :=
    enter_of_room (by simpa using hroom)
  generalize hstart : (c.noted (.user request.name request.args.length)).entered request.name site =
    start at henter ⊢
  have hcall (body : Eval V W V) (h : (do
      let v ← runBody b eval f request.args
      leave
      return some v) start = (some <$> body) start) :
      call b eval request.name request.args site c = body start := by
    refine call_of_resolve (resolve_of_function ?_)
    rw [callFunction_of_some hf, bind_of_ok henter, h]
  refine ⟨fun hbinds => hcall _ ?_, fun hrefused => ?_, fun others => ?_⟩
  · rw [f.binds_parameters, decide_eq_true_eq] at hbinds
    rw [bind_of_eq (runBody_of_eq hbinds)]
    simp only [Function.work, map_bind, map_pure]
    rfl
  · rw [f.binds_parameters, decide_eq_false_iff_not] at hrefused
    have hname : start.frame.name = request.name := by simp [← hstart]
    have hbody : runBody b eval f request.args start = .error (.fault (.raised
        (.arity start.frame.name request.args.length (.exactly f.params.length)) .nowhere)) start :=
      runBody_of_ne hrefused
    rw [hname] at hbody
    rw [f.ofParameters_parameters]
    exact hcall (throw _) (bind_of_error hbody)
  · rw [Signature.admits_want (by rw [f.ofParameters_parameters]),
      Signature.accepts_ofParameters f.ordered_parameters]

end Core

/-! ### Capabilities -/

namespace Capability

variable {cap : Capability} {ps : List Parameter} {args : List Value}

/-- What is invoked is carried out if the arguments can be bound. -/
theorem invoke_of_binds (hsignature : cap.signature = some (.ofParameters ps))
    (hordered : Parameter.Ordered ps) (h : Parameter.binds ps args = true) (activation : Activation)
    (name : String) : cap.invoke activation name args = cap.run activation args := by
  rw [← Signature.accepts_ofParameters hordered] at h
  simp only [invoke, hsignature, Signature.check, if_pos h]

/-- And if not, it is refused. -/
theorem invoke_of_not_binds (hsignature : cap.signature = some (.ofParameters ps))
    (hordered : Parameter.Ordered ps) (h : Parameter.binds ps args = false)
    (activation : Activation) (name : String) :
    cap.invoke activation name args =
      throw (.raised (.arity name args.length (Signature.ofParameters ps).want) .nowhere) := by
  rw [← Signature.accepts_ofParameters hordered] at h
  simp only [invoke, hsignature, Signature.check, h, Bool.false_eq_true, if_false]

end Capability

namespace Reflection

/-- **A capability takes a call**, with the arguments that are left for it, in the core in which it
is invoked: a routine of the environment, or, if the environment has none of the name, what the
first argument has. -/
inductive Takes (r : Reflection Value World Capability) (request : Request Value)
    (c : Core Value World) : Capability → List Value → Core Value World → Prop
  /-- A routine takes all arguments. -/
  | routine {cap : Capability} :
      r.capability? c.world r.environment request.name = some cap →
      Takes r request c cap request.args
        (c.noted (.environment request.name request.args.length))
  /-- The receiver is not counted. -/
  | receiver {target : Value} {rest : List Value} {cap : Capability} :
      r.capability? c.world r.environment request.name = none → request.args = target :: rest →
      r.capability? c.world target request.name = some cap →
      Takes r request c cap rest
        (c.noted (.receiver request.name (r.typeName c.world target) rest.length))

variable {r : Reflection Value World Capability} {request : Request Value}
  {c start : Core Value World} {cap : Capability} {args : List Value}

/-- What has a capability is asked, and then invoked. -/
theorem offer_of_capability (line : World → TraceLine) {target : Value} {name : String}
    {body : Eval Value World Value} (hcap : r.capability? c.world target name = some cap)
    (h : ask (r.perform cap c.activation name args) (c.noted (line c.world)) =
      body (c.noted (line c.world))) :
    offer r.bridge line target name args c = (some <$> body) (c.noted (line c.world)) := by
  have hhas : r.bridge.has target name c.world = .ok true c.world :=
    congrArg (EStateM.Result.ok · c.world) (by rw [hcap]; rfl)
  have hinvoke : ask (r.bridge.invoke c.activation target name args) (c.noted (line c.world)) =
      ask (r.perform cap c.activation name args) (c.noted (line c.world)) := by
    simp only [ask, noted_world, r.invoke_of_capability hcap]
  rw [offer_of_has hhas]
  exact bind_of_eq (hinvoke.trans h)

theorem offer_of_no_capability {line : World → TraceLine} {target : Value} {name : String}
    (hcap : r.capability? c.world target name = none) :
    offer r.bridge line target name args c = .ok none c := by
  have hhas : r.bridge.has target name c.world = .ok false c.world :=
    congrArg (EStateM.Result.ok · c.world) (by rw [hcap]; rfl)
  exact offer_of_not hhas

/-- A call is what comes of performing the capability that takes it. -/
theorem Takes.call_eq {eval : Node → Eval Value World Value} {site : Option Place}
    {body : Eval Value World Value} (h : r.Takes request c cap args start)
    (hf : c.functions.lookup request.name = none)
    (hbody : ask (r.perform cap c.activation request.name args) start = body start) :
    Core.call r.bridge eval request.name request.args site c = body start := by
  refine call_of_resolve ?_
  cases h with
  | routine hcap =>
    refine resolve_of_environment hf ?_
    rw [callEnvironment_eq_offer]
    exact offer_of_capability (fun _ => .environment request.name request.args.length) hcap hbody
  | receiver hnone hargs hcap =>
    refine resolve_of_receiver hf ?_ ?_
    · rw [callEnvironment_eq_offer]
      exact offer_of_no_capability hnone
    · rw [hargs, callReceiver_eq_offer]
      exact offer_of_capability (fun w => .receiver request.name (r.typeName w _) args.length) hcap
        hbody

/-- **A capability with a signature counts its arguments.** -/
theorem capability_counted {eval : Node → Eval Value World Value} {site : Option Place}
    {ps : List Parameter} (hr : r.perform = Capability.invoke)
    (hf : c.functions.lookup request.name = none) (h : r.Takes request c cap args start)
    (hsignature : cap.signature = some (.ofParameters ps)) (hordered : Parameter.Ordered ps)
    (hnamed : .named false ∉ ps) :
    Counted request.name ps args (ask (cap.run c.activation args)) start
      (Core.call r.bridge eval request.name request.args site c) := by
  refine ⟨fun hbinds => h.call_eq hf ?_, fun hrefused => ?_, fun others => ?_⟩
  · rw [hr, Capability.invoke_of_binds hsignature hordered hbinds]
  · have hthrow : ask (r.perform cap c.activation request.name args) start =
        (throw (.fault (.raised (.arity request.name args.length
          (Signature.ofParameters ps).want) .nowhere)) : Eval Value World Value) start := by
      rw [hr, Capability.invoke_of_not_binds hsignature hordered hrefused]
      rfl
    exact h.call_eq hf hthrow
  · rw [Signature.admits_want (by simpa [Signature.ofParameters] using hnamed),
      Signature.accepts_ofParameters hordered]

end Reflection

/-! ### All calls -/

/-- **The arguments of every call are counted.** A call of a function of the program, for whose
frame there is room, and a call that is taken by a capability with a signature, whatever host it
comes from: if the arguments can be bound to the parameters, then the body of the function or the
capability is entered; and if not, the call fails before that, as a wrong number of arguments, and
says its name, how many there were, and with how many they could have been bound. The receiver of a
capability is not counted. -/
theorem arguments_counted :
    (∀ {V W : Type} (b : Bridge V W) (eval : Node → Eval V W V) (request : Request V)
      (site : Option Place) (c : Core V W) (f : Function),
      c.functions.lookup request.name = some f → ¬ c.maxDepth ≤ c.depth →
      Counted request.name f.parameters request.args (f.work b eval request.args)
        ((c.noted (.user request.name request.args.length)).entered request.name site)
        (Core.call b eval request.name request.args site c)) ∧
      ∀ (r : Reflection Value World Capability) (eval : Node → Eval Value World Value)
        (request : Request Value) (site : Option Place) (c start : Core Value World)
        (cap : Capability) (args : List Value) (ps : List Parameter),
        r.perform = Capability.invoke → c.functions.lookup request.name = none →
        r.Takes request c cap args start → cap.signature = some (.ofParameters ps) →
        Parameter.Ordered ps → .named false ∉ ps →
        Counted request.name ps args (ask (cap.run c.activation args)) start
          (Core.call r.bridge eval request.name request.args site c) :=
  ⟨fun _ _ _ _ _ _ hf hroom => function_counted hf hroom,
    fun _ _ _ _ _ _ _ _ _ hr hf htakes hsignature hordered hnamed =>
      Reflection.capability_counted hr hf htakes hsignature hordered hnamed⟩

/-- A core in a game, with a function of two parameters of one name. -/
def pairedCore : Core Value World :=
  { Core.fresh 64 .off (World.start .game "") with
    functions := [("pairUp", ⟨"pairUp", ["x", "x"], [], .nowhere⟩)] }

/-- The function wants both arguments; the routine, whose second parameter can be left out, wants
one or two. -/
theorem arguments_counted_of_pairedCore :
    (∃ c, Core.call Bridges.reflective (Treewalk.eval Bridges.reflective 5) "pairUp" [.nil] none
        pairedCore = .error (.fault (.raised (.arity "pairUp" 1 (.exactly 2)) .nowhere)) c) ∧
      ∃ c, Core.call Bridges.reflective (Treewalk.eval Bridges.reflective 5) "opt" [] none
        pairedCore = .error (.fault (.raised (.arity "opt" 0 (.between 1 2)) .nowhere)) c := by
  have hfunction := (arguments_counted.1 Bridges.reflective (Treewalk.eval Bridges.reflective 5)
    ⟨"pairUp", [.nil]⟩ none pairedCore _ rfl (by decide)).refused (by decide)
  have hopt : ((Bridges.reflection.capability? pairedCore.world .environment "opt").map
      Capability.signature) = some (some (.ofParameters [.required, .optional])) := by decide +kernel
  obtain ⟨cap, hcap, hsignature⟩ := Option.map_eq_some_iff.mp hopt
  have hroutine := (arguments_counted.2 Bridges.reflection (Treewalk.eval Bridges.reflective 5)
    ⟨"opt", []⟩ none pairedCore _ cap [] [.required, .optional] rfl (by decide) (.routine hcap)
    hsignature (by decide) (by decide)).refused (by decide)
  exact ⟨⟨_, hfunction⟩, _, hroutine⟩

end Treewalk
