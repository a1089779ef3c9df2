import Treewalk.Proofs.Turn

/-!
# The course of an evaluation

A `Treewalk.Course` says, once for all later proofs, what an evaluation can do: which steps there
are, what has to hold for each of them, what the core is afterwards, and which turns are made. It is
either about the nodes of a body or about a call, and it ends in a halt or not. Values are left out,
and so is the order in which the parts of a node are taken: what is kept is that every step is made
for a node of the body that is being carried out, that a function's body runs in a frame of its own
between a push and a pop, and that nothing follows a halt.

The main result is that the evaluator keeps to this:

* **`Treewalk.eval_follows`**: the evaluation of a node of a body is a course of that body, with the
  turns of `Treewalk.turns`, from the core before to the core after;
* **`Treewalk.resolve_follows`**: the same for a call.

What holds along every course – the discipline of the stack, the growth of the function table, the
place of a fault – is then shown by induction on the course, and the evaluator is not opened again.
-/

namespace Treewalk

open Treewalk.Core

/-! ### Nodes of a body -/

namespace Node

/-- The nodes directly inside a node. The body of a definition is not among them: it is not carried
out where it stands. -/
def parts : Node → List Node
  | .literal _ _ | .string _ _ | .var _ _ | .define _ _ _ _ => []
  | .assign _ _ value => [value]
  | .cond _ test thenBody elseBody => test :: (thenBody ++ elseBody.getD [])
  | .loop _ test body => test :: body
  | .call _ _ args => args

/-- **A node within a body**: one of its nodes or a part of one, at any depth. -/
inductive Within (body : List Node) : Node → Prop
  /-- The nodes of the body themselves. -/
  | top {n : Node} : n ∈ body → Within body n
  /-- The parts of a node within. -/
  | part {m n : Node} : Within body m → n ∈ m.parts → Within body n

/-- The name that a node calls, if it is a call or a bare name. -/
def callee? : Node → Option String
  | .var _ name | .call _ name _ => some name
  | _ => none

/-- Whether a node tests a value. -/
def isTest : Node → Bool
  | .cond _ _ _ _ | .loop _ _ _ => true
  | _ => false

end Node

/-- A halt, moved to a place if it is a wrong number of arguments without a line. -/
def Halt.movedTo (place : Place) : Halt → Halt
  | .fault f => .fault (f.movedTo place)
  | .outOfFuel => .outOfFuel

/-- What is carried out: the nodes of a body, or a call from a place, which is made while some node
is being evaluated. -/
inductive Subject (V : Type) where
  | body (nodes : List Node)
  | call (request : Request V) (site : Option Place) (node : Option Node)

variable {V W α β : Type}

/-- **A capability is offered for a call**: by the environment, or, when the environment has none of
the name, by the first argument. The last world is the one in which the answer was yes. -/
inductive Offered (b : Bridge V W) (call : Request V) : V → List V → W → Prop
  /-- The environment has the capability, and takes all arguments. -/
  | routine {w₀ w : W} : b.has b.environment call.name w₀ = .ok true w →
      Offered b call b.environment call.args w
  /-- The first argument has it, and takes the others. -/
  | receiver {target : V} {rest : List V} {w₀ w₁ w : W} : call.args = target :: rest →
      b.has b.environment call.name w₀ = .ok false w₁ → b.has target call.name w₁ = .ok true w →
      Offered b call target rest w

/-- **A course**: the turns that are made, how it halts if it does, and the core afterwards. -/
inductive Course (b : Bridge V W) :
    Subject V → Core V W → List (Turn V W) → Option Halt → Core V W → Prop
  /-- Nothing is done. -/
  | rest {s : Subject V} {c : Core V W} : Course b s c [] none c
  /-- One course follows another that did not halt. -/
  | next {s : Subject V} {c c' c'' : Core V W} {ts ts' : List (Turn V W)} {o : Option Halt} :
      Course b s c ts none c' → Course b s c' ts' o c'' → Course b s c (ts ++ ts') o c''
  /-- The steps are used up. -/
  | cut {s : Subject V} {c : Core V W} : Course b s c [] (some .outOfFuel) c
  /-- A line is traced that is not about frames. -/
  | note {s : Subject V} {c : Core V W} (line : TraceLine)
      (h : ∀ name depth, line ≠ .enter name depth ∧ line ≠ .leave name depth) :
      Course b s c [] none (c.noted line)
  /-- The evaluation of a node of the body is noted. -/
  | visit {body : List Node} {c : Core V W} {n : Node} : n.Within body →
      Course b (.body body) c [] none (c.visited n)
  /-- A text is made. -/
  | make {body : List Node} {c : Core V W} (text : String) :
      Course b (.body body) c [] none (c.inWorld (b.text text c.world).2)
  /-- A variable is bound. -/
  | assign {body : List Node} {c : Core V W} (name : String) (v : V) :
      Course b (.body body) c [⟨c, .assign name v⟩] none (c.assigned name v)
  /-- A function is defined under a new name. -/
  | define {body inner : List Node} {c : Core V W} {place : Place} {name : String}
      {params : List String} : Node.Within body (.define place name params inner) →
      c.current = some (.define place name params inner) → c.functions.lookup name = none →
      Course b (.body body) c [⟨c, .define name⟩] none (c.defined name ⟨name, params, inner, place⟩)
  /-- A function is defined under a name that is taken. -/
  | conflict {body inner : List Node} {c : Core V W} {place : Place} {name : String}
      {params : List String} : Node.Within body (.define place name params inner) →
      c.current = some (.define place name params inner) → (c.functions.lookup name).isSome →
      Course b (.body body) c [⟨c, .define name⟩]
        (some (.fault (.raise (.conflict name) place))) c
  /-- A value is tested, for a node that does so. -/
  | truthy {body : List Node} {c : Core V W} {n : Node} (v : V) : n.Within body → n.isTest →
      c.current = some n →
      Course b (.body body) c [⟨c, .truthy v⟩] (haltOf (ask (b.truthy v) c))
        (coreOf (ask (b.truthy v) c))
  /-- A call is carried out, for a node that calls the name. -/
  | call {body : List Node} {c c' : Core V W} {n : Node} {request : Request V}
      {ts : List (Turn V W)} {o : Option Halt} : n.Within body → n.callee? = some request.name →
      c.current = some n → Course b (.call request (some n.place) (some n)) c ts o c' →
      Course b (.body body) c ts (o.map (Halt.movedTo n.place)) c'
  /-- No tier knows the name of a call. -/
  | unresolved {request : Request V} {site : Option Place} {node : Option Node}
      {c : Core V W} (use : Use) :
      c.current = node → c.functions.lookup request.name = none →
      Course b (.call request site node) c []
        (some (.fault (.raise (.unresolved request.name use) (site.getD .nowhere)))) c
  /-- There is no room for the frame of a function. -/
  | tooDeep {request : Request V} {site : Option Place} {node : Option Node}
      {c : Core V W} {f : Function} :
      c.current = node → c.functions.lookup request.name = some f → c.maxDepth ≤ c.depth →
      Course b (.call request site node) c [⟨c, .enter request.name⟩]
        (some (.fault (.raise .tooDeep (site.getD .nowhere)))) c
  /-- A function is called with a wrong number of arguments. -/
  | arity {request : Request V} {site : Option Place} {node : Option Node}
      {c : Core V W} {f : Function} :
      c.current = node → c.functions.lookup request.name = some f → ¬ c.maxDepth ≤ c.depth →
      request.args.length ≠ f.params.length →
      Course b (.call request site node) c [⟨c, .enter request.name⟩]
        (some (.fault (.raise
          (.arity request.name request.args.length (.exactly f.params.length)) .nowhere)))
        (c.entered request.name site)
  /-- The body of a function halts, and its frame stays. -/
  | inside {request : Request V} {site : Option Place} {node : Option Node}
      {c c' : Core V W} {f : Function}
      {ts : List (Turn V W)} {h : Halt} : c.functions.lookup request.name = some f →
      ¬ c.maxDepth ≤ c.depth → request.args.length = f.params.length →
      Course b (.body f.body) ((c.entered request.name site).bound f.params request.args) ts
        (some h) c' →
      Course b (.call request site node) c (⟨c, .enter request.name⟩ :: ts) (some h) c'
  /-- The body of a function is carried out, and its frame is popped. -/
  | through {request : Request V} {site : Option Place} {node : Option Node}
      {c c' : Core V W} {f : Function}
      {ts : List (Turn V W)} : c.functions.lookup request.name = some f →
      ¬ c.maxDepth ≤ c.depth → request.args.length = f.params.length →
      Course b (.body f.body) ((c.entered request.name site).bound f.params request.args) ts
        none c' →
      Course b (.call request site node) c (⟨c, .enter request.name⟩ :: (ts ++ [⟨c', .leave⟩]))
        none c'.left
  /-- A target is asked for a capability. -/
  | has {request : Request V} {site : Option Place} {node : Option Node}
      {c : Core V W} (target : V) :
      c.current = node → c.functions.lookup request.name = none →
      Course b (.call request site node) c [⟨c, .has request target⟩]
        (haltOf (ask (b.has target request.name) c)) (coreOf (ask (b.has target request.name) c))
  /-- A capability that was offered is invoked. -/
  | invoke {request : Request V} {site : Option Place} {node : Option Node}
      {c : Core V W} {target : V} {args : List V} :
      c.current = node → c.functions.lookup request.name = none →
      Offered b request target args c.world →
      Course b (.call request site node) c [⟨c, .invoke request target args⟩]
        (haltOf (ask (b.invoke c.activation target request.name args) c))
        (coreOf (ask (b.invoke c.activation target request.name args) c))

/-! ### The evaluator keeps to courses -/

/-- A result follows a course: it halts as the course does, in the same core. -/
def Follows (b : Bridge V W) (s : Subject V) (c : Core V W) (ts : List (Turn V W))
    (r : EStateM.Result Halt (Core V W) α) : Prop :=
  Course b s c ts (haltOf r) (coreOf r)

section Follows

variable {b : Bridge V W} {s : Subject V} {c : Core V W} {ts : List (Turn V W)}

/-- **One computation after another follows one course after another.** -/
theorem Follows.bind {x : Eval V W α} {f : α → Eval V W β}
    {next : α → Core V W → List (Turn V W)} (hx : Follows b s c ts (x c))
    (hf : ∀ a c', x c = .ok a c' → Follows b s c' (next a c') (f a c')) :
    Follows b s c (ts ++ after (x c) next) ((x >>= f) c) := by
  cases h : x c with
  | ok a c' =>
    rw [bind_of_ok h]
    rw [h] at hx
    exact Course.next hx (hf a c' h)
  | error e c' =>
    rw [bind_of_error h]
    rw [h] at hx
    simpa [Follows] using hx

/-- What makes no turns and does not halt can be put in front. -/
theorem Follows.bindStep {x : Eval V W α} {f : α → Eval V W β} {a : α} {c' : Core V W}
    (hx : x c = .ok a c') (hstep : Course b s c [] none c') (hf : Follows b s c' ts (f a c')) :
    Follows b s c ts ((x >>= f) c) := by
  rw [bind_of_ok hx]
  exact Course.next hstep hf

theorem after_nil (r : EStateM.Result Halt (Core V W) α) :
    after r (fun _ _ => ([] : List β)) = [] := by
  cases r <;> rfl

theorem follows_pure (a : α) : Follows b s c [] ((pure a : Eval V W α) c) := Course.rest

/-- What comes last and makes no turns can be put behind. -/
theorem Follows.bindLast {x : Eval V W α} {f : α → Eval V W β} (hx : Follows b s c ts (x c))
    (hf : ∀ a c', x c = .ok a c' → Follows b s c' [] (f a c')) :
    Follows b s c ts ((x >>= f) c) := by
  have h : Follows b s c (ts ++ after (x c) fun _ _ => []) ((x >>= f) c) := hx.bind hf
  rwa [after_nil, List.append_nil] at h

/-- A computation whose value is only wrapped makes no further turns. -/
theorem Follows.bindPure {x : Eval V W α} {f : α → β} (hx : Follows b s c ts (x c)) :
    Follows b s c ts ((x >>= fun a => pure (f a)) c) :=
  hx.bindLast fun a _ _ => follows_pure (f a)

end Follows

section Calls

variable {b : Bridge V W} {eval : Node → Eval V W V} {seen : Node → Core V W → List (Turn V W)}
  {request : Request V} {site : Option Place} {c : Core V W}

theorem exec_follows {body : List Node}
    (heval : ∀ n c, n.Within body → Follows b (.body body) c (seen n c) (eval n c)) :
    ∀ (nodes : List Node) (last : V) (c : Core V W), (∀ n ∈ nodes, n.Within body) →
      Follows b (.body body) c (execTurns eval seen nodes c) (exec eval last nodes c)
  | [], last, c, _ => follows_pure last
  | n :: rest, _, c, h =>
    (heval n c (h n (by simp))).bind fun v c' _ =>
      exec_follows heval rest v c' fun m hm => h m (by simp [hm])

theorem evalAll_follows {body : List Node}
    (heval : ∀ n c, n.Within body → Follows b (.body body) c (seen n c) (eval n c)) :
    ∀ (nodes : List Node) (c : Core V W), (∀ n ∈ nodes, n.Within body) →
      Follows b (.body body) c (execTurns eval seen nodes c) (evalAll eval nodes c)
  | [], c, _ => follows_pure []
  | n :: rest, c, h =>
    (heval n c (h n (by simp))).bind fun _ c' _ =>
      (evalAll_follows heval rest c' fun m hm => h m (by simp [hm])).bindPure

/-- **A call of a function of the program** pushes a frame, carries out the body and pops the frame,
unless it halts on the way. -/
theorem callFunction_follows
    (heval : ∀ body n c, n.Within body → Follows b (.body body) c (seen n c) (eval n c)) :
    Follows b (.call request site c.current) c (functionTurns b eval seen request site c)
      (callFunction b eval request.name request.args site c) := by
  cases hf : c.functions.lookup request.name with
  | none =>
    rw [callFunction_of_none hf]
    simp only [functionTurns, hf]
    exact Course.rest
  | some f =>
    rw [callFunction_of_some hf]
    simp only [functionTurns, hf]
    generalize hc : c.noted (.user request.name request.args.length) = c₁
    have hnote : Course b (.call request site c.current) c [] none c₁ :=
      hc ▸ Course.note _ (by simp)
    have hf₁ : c₁.functions.lookup request.name = some f := by simp [← hc, hf]
    have hnode : c₁.current = c.current := by simp [← hc]
    refine Course.next hnote ?_
    by_cases hroom : c₁.maxDepth ≤ c₁.depth
    · have hfull : enter request.name site c₁ =
          .error (.fault (.raise .tooDeep (site.getD .nowhere))) c₁ := enter_of_full hroom
      rw [bind_of_error hfull, hfull]
      exact Course.tooDeep hnode hf₁ hroom
    · have henter : enter request.name site c₁ = .ok () (c₁.entered request.name site) :=
        enter_of_room hroom
      rw [bind_of_ok henter, henter, after_ok]
      by_cases hargs : request.args.length = f.params.length
      · have hbody := exec_follows (heval f.body) f.body b.nil
          ((c₁.entered request.name site).bound f.params request.args) fun n hn => .top hn
        simp only [bodyTurns, if_pos hargs]
        rw [← runBody_of_eq hargs] at hbody
        cases hrun : runBody b eval f request.args (c₁.entered request.name site) with
        | ok v c₂ =>
          rw [hrun] at hbody
          rw [bind_of_ok hrun, bind_of_ok (leave_apply c₂)]
          exact Course.through hf₁ hroom hargs hbody
        | error h c₂ =>
          -- nothing pops the frame: the turn that would do so is not made
          rw [hrun] at hbody
          rw [bind_of_error hrun, after_error, List.append_nil]
          exact Course.inside hf₁ hroom hargs hbody
      · have hrun : runBody b eval f request.args (c₁.entered request.name site) = _ :=
          runBody_of_ne hargs
        rw [bind_of_error hrun, hrun, after_error]
        simp only [bodyTurns, if_neg hargs, entered_frame]
        exact Course.arity hnode hf₁ hroom hargs

/-! A tier that gives `none` has only asked. -/

theorem callFunction_eq_none {c' : Core V W}
    (h : callFunction b eval request.name request.args site c = .ok none c') :
    c.functions.lookup request.name = none ∧ c' = c := by
  cases hf : c.functions.lookup request.name with
  | none =>
    rw [callFunction_of_none hf] at h
    cases h
    exact ⟨rfl, rfl⟩
  | some f =>
    -- a function that is found gives a value or halts
    exfalso
    rw [callFunction_of_some hf] at h
    obtain ⟨_, _, -, h⟩ := bind_eq_ok h
    obtain ⟨_, _, -, h⟩ := bind_eq_ok h
    obtain ⟨_, _, -, h⟩ := bind_eq_ok h
    cases h

theorem offer_eq_none {line : W → TraceLine} {target : V} {args : List V} {name : String}
    {c' : Core V W} (h : offer b line target name args c = .ok none c') :
    ∃ w, b.has target name c.world = .ok false w ∧ c' = c.inWorld w := by
  cases hb : b.has target name c.world with
  | error fault w =>
    rw [offer_of_error hb] at h
    cases h
  | ok known w =>
    cases known with
    | false =>
      rw [offer_of_not hb] at h
      cases h
      exact ⟨w, rfl, rfl⟩
    | true =>
      exfalso
      rw [offer_of_has hb] at h
      obtain ⟨_, _, -, h⟩ := bind_eq_ok h
      cases h

/-- **A target is asked, and invoked if it says yes.** -/
theorem offer_follows {node : Option Node} {line : W → TraceLine} {target : V} {args : List V}
    (hnode : c.current = node)
    (hline : ∀ w name depth, line w ≠ .enter name depth ∧ line w ≠ .leave name depth)
    (hf : c.functions.lookup request.name = none)
    (hoffered : ∀ w, b.has target request.name c.world = .ok true w →
      Offered b request target args w) :
    Follows b (.call request site node) c (offerTurns b line request target args c)
      (offer b line target request.name args c) := by
  have hask : Course b (.call request site node) c [⟨c, .has request target⟩] _ _ :=
    .has target hnode hf
  cases hb : b.has target request.name c.world with
  | error fault w =>
    rw [ask_of_error hb] at hask
    rw [offer_of_error hb]
    simp only [offerTurns, ask_of_error hb, after_error]
    exact hask
  | ok known w =>
    rw [ask_of_ok hb] at hask
    simp only [offerTurns, ask_of_ok hb, after_ok]
    cases known with
    | false =>
      rw [offer_of_not hb]
      exact hask
    | true =>
      rw [offer_of_has hb]
      have hinvoke : Course b (.call request site node) ((c.inWorld w).noted (line w))
          [⟨(c.inWorld w).noted (line w), .invoke request target args⟩] _ _ :=
        .invoke (by simpa using hnode) (by simpa using hf) (by simpa using hoffered w hb)
      have hactivation : ((c.inWorld w).noted (line w)).activation = c.activation := by
        simp [activation, depth]
      rw [hactivation] at hinvoke
      exact Course.next hask (Course.next (Course.note _ (hline w)) (Follows.bindPure hinvoke))

/-- **The tiers of a call**, one after the other. -/
theorem resolve_follows
    (heval : ∀ body n c, n.Within body → Follows b (.body body) c (seen n c) (eval n c)) :
    Follows b (.call request site c.current) c (resolveTurns b eval seen request site c)
      (resolve b eval request.name request.args site c) := by
  refine (callFunction_follows heval).bind fun r c₁ h₁ => ?_
  cases r with
  | some v => exact follows_pure _
  | none =>
    obtain ⟨hf, rfl⟩ := callFunction_eq_none h₁
    refine (offer_follows rfl (by simp) hf fun w hw => .routine hw).bind fun r c₂ h₂ => ?_
    cases r with
    | some v => exact follows_pure _
    | none =>
      obtain ⟨w, hw, rfl⟩ := offer_eq_none h₂
      cases hargs : request.args with
      | nil =>
        simp only [receiverTurns, hargs]
        exact follows_pure _
      | cons target rest =>
        simp only [receiverTurns, hargs]
        exact offer_follows rfl (by simp) (by simpa using hf) fun w' hw' => .receiver hargs hw hw'

/-- When no tier knows a name, no function has it, and the node is the same. -/
theorem resolve_eq_none {c' : Core V W}
    (h : resolve b eval request.name request.args site c = .ok none c') :
    c'.functions.lookup request.name = none ∧ c'.current = c.current := by
  obtain ⟨r, c₁, h₁, htiers⟩ := bind_eq_ok h
  cases r with
  | some v => cases htiers
  | none =>
    obtain ⟨hf, rfl⟩ := callFunction_eq_none h₁
    obtain ⟨r, c₂, h₂, hlast⟩ := bind_eq_ok htiers
    cases r with
    | some v => cases hlast
    | none =>
      rw [callEnvironment_eq_offer] at h₂
      obtain ⟨w, -, rfl⟩ := offer_eq_none h₂
      cases hargs : request.args with
      | nil =>
        simp only [hargs] at hlast
        cases hlast
        exact ⟨by simpa using hf, by simp⟩
      | cons target rest =>
        simp only [hargs, callReceiver_eq_offer] at hlast
        obtain ⟨w', -, rfl⟩ := offer_eq_none hlast
        exact ⟨by simpa using hf, by simp⟩

/-- A name that no tier knows is a fault, and makes no further turn. -/
theorem Follows.bindUnresolved {use : Use} {place : Place} (hplace : place = site.getD .nowhere)
    (h : Follows b (.call request site c.current) c (resolveTurns b eval seen request site c)
      (resolve b eval request.name request.args site c)) :
    Follows b (.call request site c.current) c (resolveTurns b eval seen request site c)
      ((do
        match ← resolve b eval request.name request.args site with
        | some v => return v
        | none => raise (.unresolved request.name use) place : Eval V W V) c) := by
  refine h.bindLast fun r c' hr => ?_
  cases r with
  | some v => exact follows_pure v
  | none =>
    subst hplace
    obtain ⟨hf, hnode⟩ := resolve_eq_none hr
    exact Course.unresolved use hnode hf

theorem call_follows
    (heval : ∀ body n c, n.Within body → Follows b (.body body) c (seen n c) (eval n c)) :
    Follows b (.call request site c.current) c (resolveTurns b eval seen request site c)
      (call b eval request.name request.args site c) :=
  (resolve_follows heval).bindUnresolved rfl

theorem callBare_follows {name : String} {place : Place}
    (heval : ∀ body n c, n.Within body → Follows b (.body body) c (seen n c) (eval n c)) :
    Follows b (.call ⟨name, []⟩ (some place) c.current) c
      (resolveTurns b eval seen ⟨name, []⟩ (some place) c) (callBare b eval name place c) :=
  (resolve_follows heval).bindUnresolved rfl

/-- A call that a node makes is a course of the body that the node stands in. -/
theorem Follows.located {body : List Node} {n : Node} {place : Place} {ts : List (Turn V W)}
    {x : Eval V W V} (h : Follows b (.call request (some place) c.current) c ts (x c))
    (hn : n.Within body) (hplace : n.place = place) (hname : n.callee? = some request.name)
    (hc : c.current = some n) : Follows b (.body body) c ts (Core.located place x c) := by
  subst hplace
  rw [hc] at h
  have h' := Course.call hn hname hc h
  unfold Core.located
  cases hx : x c with
  | ok v c' =>
    rw [hx] at h'
    exact h'
  | error e c' =>
    rw [hx] at h'
    cases e with
    | fault f => exact h'
    | outOfFuel => exact h'

end Calls

/-- **The evaluator keeps to courses**: the evaluation of a node within a body is a course of the
body, with the turns of the node. -/
theorem eval_follows (b : Bridge V W) (fuel : Nat) : ∀ (body : List Node) (n : Node) (c : Core V W),
    n.Within body → Follows b (.body body) c (turns b fuel n c) (eval b fuel n c) := by
  induction fuel with
  | zero => exact fun _ _ _ _ => Course.cut
  | succ fuel ih =>
    intro body n c hn
    have hvisit (c : Core V W) : Course b (.body body) c [] none (c.visited n) := .visit hn
    have hpart {m : Node} (hm : m ∈ n.parts) (c : Core V W) :=
      ih body m c (.part hn hm)
    cases n with
    | literal place v => exact hvisit c
    | string place text => exact Course.next (hvisit c) (.make text)
    | var place name =>
      simp only [turns, eval]
      refine Follows.bindStep (visit_apply _ c) (hvisit c) ?_
      refine Follows.bindStep (get_apply _) Course.rest ?_
      cases hv : c.frame.get? name with
      | some v => 
        simp only [visited_frame, hv]
        exact follows_pure v
      | none =>
        simp only [visited_frame, hv]
        exact (callBare_follows ih).located hn rfl rfl rfl
    | assign place name value =>
      simp only [turns, eval]
      refine Follows.bindStep (visit_apply _ c) (hvisit c) ?_
      refine (hpart (by simp [Node.parts]) _).bind fun v c' _ => ?_
      exact Follows.bindPure (f := fun _ => v) (Course.assign name v)
    | cond place test thenBody elseBody =>
      simp only [turns, eval]
      refine (hpart (by simp [Node.parts]) _).bind fun v c' _ => ?_
      refine Follows.bindStep (visit_apply _ c') (hvisit c') ?_
      refine Follows.bind (Course.truthy v hn rfl rfl) fun truth c'' _ => ?_
      have hthen : ∀ m ∈ thenBody, m.Within body := fun m hm => .part hn (by simp [Node.parts, hm])
      have helse : ∀ m ∈ elseBody.getD [], m.Within body :=
        fun m hm => .part hn (by simp [Node.parts, hm])
      cases truth with
      | true => exact exec_follows (ih body) thenBody b.nil c'' hthen
      | false =>
        cases elseBody with
        | some inner => exact exec_follows (ih body) inner b.nil c'' helse
        | none => exact follows_pure _
    | loop place test inner =>
      simp only [turns, eval]
      refine (hpart (by simp [Node.parts]) _).bind fun v c' _ => ?_
      refine Follows.bindStep (visit_apply _ c') (hvisit c') ?_
      refine Follows.bind (Course.truthy v hn rfl rfl) fun truth c'' _ => ?_
      have hinner : ∀ m ∈ inner, m.Within body := fun m hm => .part hn (by simp [Node.parts, hm])
      cases truth with
      | true =>
        -- the next round is an evaluation of the same node, with less to spend
        exact (exec_follows (ih body) inner b.nil c'' hinner).bind fun _ c₃ _ => ih body _ c₃ hn
      | false => exact follows_pure _
    | define place name params inner =>
      simp only [turns, eval]
      refine Follows.bindStep (visit_apply _ c) (hvisit c) ?_
      refine Follows.bindPure (f := fun _ => b.nil) ?_
      cases hf : c.functions.lookup name with
      | none =>
        rw [define_of_new (by simpa using hf)]
        exact Course.define hn rfl hf
      | some f =>
        rw [define_of_known (by simp [hf])]
        exact Course.conflict hn rfl (by simp [hf])
    | call place name args =>
      simp only [turns, eval]
      refine (evalAll_follows (ih body) args c fun m hm => .part hn hm).bind fun vs c' _ => ?_
      refine Follows.bindStep (visit_apply _ c') (hvisit c') ?_
      have hcall : Follows b (.call ⟨name, vs⟩ (some place) _)
          (c'.visited (.call place name args)) _ _ := call_follows ih
      exact hcall.located hn rfl rfl rfl

/-- **The evaluation of a program** is a course of its body. -/
theorem Program.eval_follows (b : Bridge V W) (fuel : Nat) (p : Program) (c : Core V W) :
    Follows b (.body p.body) c (p.turns b fuel c) (p.eval b fuel c) :=
  exec_follows (Treewalk.eval_follows b fuel p.body) p.body b.nil c fun _ hn => .top hn

end Treewalk
