import Treewalk.Proofs.Dispatch
import Treewalk.Proofs.Location

/-!
# Evaluations that end

The evaluator is given a number of steps, and an evaluation ends if some number is enough: from
there on the result does not change any more, and it is a value or a fault (`Treewalk.Settles`).

Without loops the only way to go on for ever is to call functions inside one another, and the limit
of the stack forbids that. The body of a function is no part of the node that calls it, and new
functions come up while the program runs, so the size of a node does not bound what it does. What
goes down is first the room that is left on the stack, when a body is entered, and then the node.
The argument is an induction on the room, with an induction over the tree inside
(`Treewalk.eval_settles`); between two nodes of a body both bounds are as before, because what
returns leaves the stack as it was (`Treewalk.Core.Bounded.of_follows`).

* **`Treewalk.Program.eval_terminates`**: without loops, every evaluation ends, in every core.
-/

namespace Treewalk

open Treewalk.Core

variable {V W α β : Type}

/-! ### Trees without loops -/

/-- Whether a node is a loop. -/
def Node.isLoop : Node → Bool
  | .loop _ _ _ => true
  | _ => false

/-- **A tree without loops**, in the bodies of definitions as well. -/
def LoopFree (tree : List Node) : Prop := ∀ n : Node, n.Occurs tree → n.isLoop = false

/-- What is in a part of a tree is in the tree. -/
theorem Node.Occurs.mono {tree part : List Node} {n : Node} (h : n.Occurs part)
    (hpart : ∀ m ∈ part, Node.Occurs tree m) : n.Occurs tree := by
  induction h with
  | top hn => exact hpart _ hn
  | child _ hn ih => exact .child ih hn

@[simp] theorem Node.not_occurs_nil (n : Node) : ¬ n.Occurs [] := by
  intro h
  induction h with
  | top hn => cases hn
  | child _ _ ih => exact ih

@[simp] theorem Node.occurs_cons {m n : Node} {rest : List Node} :
    n.Occurs (m :: rest) ↔ n = m ∨ n.Occurs m.children ∨ n.Occurs rest := by
  constructor
  · intro h
    induction h with
    | top hn => exact (List.mem_cons.mp hn).imp_right fun hn => .inr (.top hn)
    | child _ hn ih =>
      rcases ih with rfl | ih | ih
      · exact .inr (.inl (.top hn))
      · exact .inr (.inl (.child ih hn))
      · exact .inr (.inr (.child ih hn))
  · rintro (rfl | h | h)
    · exact .top (by simp)
    · exact h.mono fun k hk => .child (.top (by simp)) hk
    · exact h.mono fun k hk => .top (by simp [hk])

theorem LoopFree.mono {tree part : List Node} (h : LoopFree tree)
    (hpart : ∀ m ∈ part, Node.Occurs tree m) : LoopFree part :=
  fun n hn => h n (hn.mono hpart)

theorem LoopFree.of_mem {tree : List Node} {n : Node} (h : LoopFree tree) (hn : n ∈ tree) :
    LoopFree [n] :=
  h.mono (by simpa using .top hn)

theorem LoopFree.of_mem_children {m n : Node} (h : LoopFree [n]) (hm : m ∈ n.children) :
    LoopFree [m] :=
  h.mono (by simpa using .inr (.top hm))

/-- Nodes without loops define functions without loops. -/
theorem LoopFree.hereditary :
    Hereditary (fun n => LoopFree [n]) fun e => ∀ n ∈ e.2.body, LoopFree [n] where
  part hm hn := hm.of_mem_children (Node.mem_children_of_mem_parts hn)
  define hn _ hm := hn.of_mem_children hm
  body he := he

/-! ### Computations that settle -/

/-- **A computation settles**: given enough steps it has one result, which is a value or a fault. -/
def Settles (x : Nat → Eval V W α) (c : Core V W) : Prop :=
  ∃ enough r, (∀ fuel, enough ≤ fuel → x fuel c = r) ∧ haltOf r ≠ some .outOfFuel

namespace Settles

variable {c c' : Core V W}

/-- What gives a value whatever the number of steps settles. -/
theorem of_ok {x : Nat → Eval V W α} {a : α} (h : ∀ fuel, x fuel c = .ok a c') : Settles x c :=
  ⟨0, .ok a c', fun fuel _ => h fuel, by simp⟩

/-- What ends in a fault whatever the number of steps settles. -/
theorem of_fault {x : Nat → Eval V W α} {f : Fault}
    (h : ∀ fuel, x fuel c = .error (.fault f) c') : Settles x c :=
  ⟨0, .error (.fault f) c', fun fuel _ => h fuel, by simp⟩

theorem pure (a : α) : Settles (fun _ => Pure.pure a) c := of_ok fun _ => rfl

theorem raise (cause : Cause) (place : Place) :
    Settles (fun _ => (Core.raise cause place : Eval V W α)) c :=
  of_fault fun _ => rfl

/-- **One computation after another settles**, if the second does from where the first returns. -/
theorem bind {x : Nat → Eval V W α} {f : Nat → α → Eval V W β} (hx : Settles x c)
    (hf : ∀ fuel a c', x fuel c = .ok a c' → Settles (fun n => f n a) c') :
    Settles (fun n => x n >>= f n) c := by
  obtain ⟨enough, r, hr, hend⟩ := hx
  cases r with
  | ok a c' =>
    obtain ⟨enough', r', hr', hend'⟩ := hf enough a c' (hr enough (Nat.le_refl _))
    refine ⟨max enough enough', r', fun fuel hfuel => ?_, hend'⟩
    exact (bind_of_ok (hr fuel (by omega))).trans (hr' fuel (by omega))
  | error h c' =>
    exact ⟨enough, .error h c', fun fuel hfuel => bind_of_error (hr fuel hfuel), hend⟩

theorem congr {x y : Nat → Eval V W α} (h : ∀ fuel, x fuel c = y fuel c') (hy : Settles y c') :
    Settles x c := by
  obtain ⟨enough, r, hr, hend⟩ := hy
  exact ⟨enough, r, fun fuel hfuel => (h fuel).trans (hr fuel hfuel), hend⟩

/-- What takes no steps can be put in front. -/
theorem bindStep {x : Eval V W α} {f : Nat → α → Eval V W β} {a : α} (hx : x c = .ok a c')
    (hf : Settles (fun n => f n a) c') : Settles (fun n => x >>= f n) c :=
  hf.congr fun _ => bind_of_ok hx

theorem bindPure {x : Nat → Eval V W α} {f : α → β} (hx : Settles x c) :
    Settles (fun n => x n >>= fun a => Pure.pure (f a)) c :=
  hx.bind fun _ _ _ _ => .pure _

theorem ask (x : Ask W α) : Settles (fun _ => Core.ask x) c := by
  cases h : x c.world with
  | ok a w => exact of_ok fun _ => ask_of_ok h
  | error f w => exact of_fault fun _ => ask_of_error h

/-- Moving a fault to a place does not need steps. -/
theorem located {x : Nat → Eval V W V} (place : Place) (hx : Settles x c) :
    Settles (fun n => Core.located place (x n)) c := by
  obtain ⟨enough, r, hr, hend⟩ := hx
  refine ⟨enough, Core.located place (fun _ => r) c, fun fuel hfuel => ?_, ?_⟩
  · simp only [Core.located, hr fuel hfuel]
  · cases r with
    | ok v c' => exact hend
    | error h c' => cases h with
      | fault f => simp [Core.located]
      | outOfFuel => exact hend

/-- One step more at the start is one step more that is enough. -/
theorem of_succ {x : Nat → Eval V W α} (h : Settles (fun n => x (n + 1)) c) : Settles x c := by
  obtain ⟨enough, r, hr, hend⟩ := h
  refine ⟨enough + 1, r, fun fuel hfuel => ?_, hend⟩
  obtain ⟨n, rfl⟩ : ∃ n, fuel = n + 1 := ⟨fuel - 1, by omega⟩
  exact hr n (by omega)

end Settles

/-! ### What goes down -/

namespace Core

/-- **A core with bounded room**: so many frames can be pushed at most, and no function has a
loop. -/
structure Bounded (room : Nat) (c : Core V W) : Prop where
  room_le : c.maxDepth ≤ c.depth + room
  functions : ∀ e ∈ c.functions, ∀ n ∈ e.2.body, LoopFree [n]

namespace Bounded

variable {room : Nat} {c c' : Core V W}

theorem of_eq (hc : c.Bounded room) (hmax : c'.maxDepth = c.maxDepth) (hdepth : c'.depth = c.depth)
    (hfunctions : c'.functions = c.functions) : c'.Bounded room :=
  ⟨by simpa [hmax, hdepth] using hc.room_le, hfunctions ▸ hc.functions⟩

/-- **What returns leaves the room as it was**, if no loop is defined on the way. -/
theorem of_follows {b : Bridge V W} {body : List Node} {ts : List (Turn V W)} {x : Eval V W α}
    {a : α} (hc : c.Bounded room) (hbody : ∀ n ∈ body, LoopFree [n])
    (h : Follows b (.body body) c ts (x c)) (hx : x c = .ok a c') : c'.Bounded room := by
  rw [hx] at h
  obtain ⟨extra, hextra, hg⟩ := h.grown
  obtain rfl := hextra rfl
  refine ⟨?_, h.functions_all LoopFree.hereditary hbody hc.functions⟩
  have hroom := hc.room_le
  rwa [← hg.maxDepth_eq, depth, ← hg.below_eq] at hroom

/-- **A frame that is pushed takes room.** -/
theorem entered (hc : c.Bounded (room + 1)) (name : String) (site : Option Place) :
    (c.entered name site).Bounded room := by
  refine ⟨?_, by simpa using hc.functions⟩
  have hroom := hc.room_le
  simp only [depth, entered_below, List.length_cons, entered_maxDepth] at hroom ⊢
  omega

end Bounded

end Core

/-! ### The evaluator -/

/-- The evaluation of a node leaves the room as it was. -/
theorem Core.Bounded.of_eval {b : Bridge V W} {room fuel : Nat} {n : Node} {c c' : Core V W} {v : V}
    (hc : c.Bounded room) (hn : LoopFree [n]) (hv : eval b fuel n c = .ok v c') :
    c'.Bounded room :=
  hc.of_follows (by simpa using hn) (eval_follows b fuel [n] n c (.top (by simp))) hv

/-- The evaluation of a node settles wherever the room is bounded. -/
def SettlesWithin (b : Bridge V W) (room : Nat) (n : Node) : Prop :=
  ∀ c : Core V W, c.Bounded room → Settles (fun fuel => eval b fuel n) c

section Calls

variable {b : Bridge V W} {room : Nat} {c : Core V W}

theorem exec_settles : ∀ {nodes : List Node}, (∀ n ∈ nodes, LoopFree [n]) →
    (∀ n ∈ nodes, SettlesWithin b room n) → ∀ (last : V) (c : Core V W), c.Bounded room →
      Settles (fun fuel => exec (eval b fuel) last nodes) c
  | [], _, _, last, _, _ => .pure last
  | n :: rest, hfree, hnodes, _, c, hc =>
    (hnodes n (by simp) c hc).bind fun fuel v c' hv =>
      exec_settles (fun m hm => hfree m (by simp [hm])) (fun m hm => hnodes m (by simp [hm])) v c'
        (hc.of_eval (hfree n (by simp)) hv)

theorem evalAll_settles : ∀ {nodes : List Node}, (∀ n ∈ nodes, LoopFree [n]) →
    (∀ n ∈ nodes, SettlesWithin b room n) → ∀ c : Core V W, c.Bounded room →
      Settles (fun fuel => evalAll (eval b fuel) nodes) c
  | [], _, _, _, _ => .pure []
  | n :: rest, hfree, hnodes, c, hc =>
    (hnodes n (by simp) c hc).bind fun fuel v c' hv =>
      (evalAll_settles (fun m hm => hfree m (by simp [hm])) (fun m hm => hnodes m (by simp [hm])) c'
        (hc.of_eval (hfree n (by simp)) hv)).bindPure

variable (hinner : ∀ j, room = j + 1 → ∀ n, LoopFree [n] → SettlesWithin b j n)
include hinner

/-- **The first tier settles**: the body of a function has less room. -/
theorem callFunction_settles (name : String) (args : List V) (site : Option Place)
    (hc : c.Bounded room) :
    Settles (fun fuel => callFunction b (eval b fuel) name args site) c := by
  cases hf : c.functions.lookup name with
  | none => exact .of_ok fun _ => callFunction_of_none hf
  | some f =>
    refine .congr (fun _ => callFunction_of_some hf) ?_
    have hnoted : (c.noted (.user name args.length)).Bounded room :=
      hc.of_eq (by simp) (by simp) (by simp)
    have hbody : ∀ n ∈ f.body, LoopFree [n] := hc.functions (name, f) (mem_of_lookup_eq_some hf)
    generalize c.noted (.user name args.length) = c₁ at hnoted ⊢
    by_cases hfull : c₁.maxDepth ≤ c₁.depth
    · exact .of_fault fun _ => bind_of_error (enter_of_full hfull)
    · obtain ⟨j, rfl⟩ : ∃ j, room = j + 1 := by
        have hroom := hnoted.room_le
        exact ⟨room - 1, by omega⟩
      refine .bindStep (enter_of_room hfull) ?_
      refine Settles.bind ?_ fun _ v c₂ _ => .bindStep (leave_apply c₂) (.pure _)
      by_cases hargs : args.length = f.params.length
      · refine .congr (fun _ => runBody_of_eq hargs) ?_
        exact exec_settles hbody (fun n hn => hinner j rfl n (hbody n hn)) b.nil _
          ((hnoted.entered name site).of_eq rfl rfl rfl)
      · exact .of_fault fun _ => runBody_of_ne hargs

omit hinner in
/-- The second and the third tier settle: they take no steps. -/
theorem offer_settles (line : W → TraceLine) (target : V) (name : String) (args : List V) :
    Settles (fun _ => offer b line target name args) c := by
  cases hb : b.has target name c.world with
  | error f w => exact .of_fault fun _ => offer_of_error hb
  | ok known w =>
    cases known with
    | false => exact .of_ok fun _ => offer_of_not hb
    | true => exact .congr (fun _ => offer_of_has hb) (Settles.ask _).bindPure

theorem resolve_settles (name : String) (args : List V) (site : Option Place)
    (hc : c.Bounded room) : Settles (fun fuel => resolve b (eval b fuel) name args site) c := by
  unfold resolve
  refine (callFunction_settles hinner name args site hc).bind fun _ r c₁ _ => ?_
  cases r with
  | some v => exact .pure (some v)
  | none =>
    simp only [callEnvironment_eq_offer]
    refine (offer_settles _ b.environment name args).bind fun _ r c₂ _ => ?_
    cases r with
    | some v => exact .pure (some v)
    | none =>
      cases args with
      | nil => exact .pure none
      | cons target rest =>
        simp only [callReceiver_eq_offer]
        exact offer_settles _ target name rest

/-- A name that no tier knows is a fault. -/
theorem unresolved_settles (name : String) (args : List V) (site : Option Place) (use : Use)
    (place : Place) (hc : c.Bounded room) :
    Settles (fun fuel => (do
      match ← resolve b (eval b fuel) name args site with
      | some v => return v
      | none => raise (.unresolved name use) place : Eval V W V)) c := by
  refine (resolve_settles hinner name args site hc).bind fun _ r c₁ _ => ?_
  cases r with
  | some v => exact .pure v
  | none => exact .raise _ _

/-- **The evaluator settles with some room**, if it does with less. -/
theorem eval_settles_of_inner (n : Node) (hn : LoopFree [n]) : SettlesWithin b room n := by
  induction n using Node.induction with
  | h n ih =>
    intro c hc
    have hpart (m : Node) (hm : m ∈ n.parts) : LoopFree [m] ∧ SettlesWithin b room m := by
      have hm := Node.mem_children_of_mem_parts hm
      exact ⟨hn.of_mem_children hm, ih m hm (hn.of_mem_children hm)⟩
    have hexec {nodes : List Node} (hnodes : ∀ m ∈ nodes, m ∈ n.parts) (c : Core V W)
        (hc : c.Bounded room) : Settles (fun fuel => exec (eval b fuel) b.nil nodes) c :=
      exec_settles (fun m hm => (hpart m (hnodes m hm)).1) (fun m hm => (hpart m (hnodes m hm)).2)
        b.nil c hc
    refine .of_succ ?_
    cases n with
    | literal place v =>
      simp only [eval]
      exact .bindStep (visit_apply _ c) (.pure _)
    | string place text =>
      simp only [eval]
      exact .bindStep (visit_apply _ c) (.of_ok fun _ => make_apply _ _)
    | var place name =>
      simp only [eval]
      refine .bindStep (visit_apply _ c) (.bindStep (get_apply _) ?_)
      simp only [visited_frame]
      cases c.frame.get? name with
      | some v => exact .pure v
      | none =>
        exact .located place (unresolved_settles hinner name [] (some place) .bare place
          (hc.of_eq rfl rfl rfl))
    | assign place name value =>
      simp only [eval]
      refine .bindStep (visit_apply _ c) ?_
      have hvisited : (c.visited (.assign place name value)).Bounded room := hc.of_eq rfl rfl rfl
      refine ((hpart value (by simp [Node.parts])).2 _ hvisited).bind fun _ v c' _ => ?_
      exact .bindStep rfl (.pure v)
    | cond place test thenBody elseBody =>
      simp only [eval]
      have htest := hpart test (by simp [Node.parts])
      refine (htest.2 c hc).bind fun fuel v c₁ hv => .bindStep (visit_apply _ c₁) ?_
      have hc₁ : c₁.Bounded room := hc.of_eval htest.1 hv
      refine (Settles.ask _).bind fun _ truth c₂ htruth => ?_
      have hc₂ : c₂.Bounded room := by
        have hw := coreOf_ask (b.truthy v) (c₁.visited (.cond place test thenBody elseBody))
        rw [htruth, coreOf_ok] at hw
        exact hc₁.of_eq (by simp [hw]) (by simp [hw, depth]) (by simp [hw])
      cases truth with
      | true => exact hexec (fun m hm => by simp [Node.parts, hm]) c₂ hc₂
      | false =>
        cases elseBody with
        | some inner => exact hexec (fun m hm => by simp [Node.parts, hm]) c₂ hc₂
        | none => exact .pure _
    | loop place test body => cases hn (.loop place test body) (.top (by simp))
    | define place name params body =>
      simp only [eval]
      refine .bindStep (visit_apply _ c) (Settles.bindPure (f := fun _ => b.nil) ?_)
      cases hf : c.functions.lookup name with
      | none => exact .of_ok fun _ => define_of_new hf
      | some f => exact .of_fault fun _ => define_of_known (by simp [hf])
    | call place name args =>
      simp only [eval]
      have hargs : Settles (fun fuel => evalAll (eval b fuel) args) c :=
        evalAll_settles (fun m hm => (hpart m hm).1) (fun m hm => (hpart m hm).2) c hc
      refine hargs.bind fun fuel vs c₁ hvs => .bindStep (visit_apply _ c₁) (.located place ?_)
      have hc₁ : c₁.Bounded room :=
        hc.of_follows (fun m hm => (hpart m hm).1)
          (evalAll_follows (eval_follows b fuel args) args c fun _ hm => .top hm) hvs
      exact unresolved_settles hinner name vs (some place) .call place (hc₁.of_eq rfl rfl rfl)

end Calls

/-- **The evaluator settles without loops**, whatever the room. -/
theorem eval_settles (b : Bridge V W) (room : Nat) :
    ∀ n, LoopFree [n] → SettlesWithin b room n := by
  induction room with
  | zero => exact eval_settles_of_inner fun j hj => by simp at hj
  | succ room ih =>
    refine eval_settles_of_inner fun j hj => ?_
    obtain rfl : room = j := Nat.succ.inj hj
    exact ih

/-- **The limit of the stack makes every program without loops end.** In every core, whatever is on
its stack and whatever the limit is, in which no function has loops: from some number of steps on
the evaluation has one and the same result, and that is a value or a fault. -/
theorem Program.eval_terminates (b : Bridge V W) (p : Program) (c : Core V W)
    (hp : LoopFree p.body) (hc : ∀ e ∈ c.functions, LoopFree e.2.body) :
    ∃ enough r, (∀ fuel, enough ≤ fuel → p.eval b fuel c = r) ∧
      ((∃ v c', r = .ok v c') ∨ ∃ f c', r = .error (.fault f) c') := by
  have hbounded : c.Bounded (c.maxDepth - c.depth).toNat :=
    ⟨by omega, fun e he n hn => (hc e he).of_mem hn⟩
  obtain ⟨enough, r, hr, hend⟩ := exec_settles (fun n hn => hp.of_mem hn)
    (fun n hn => eval_settles b _ n (hp.of_mem hn)) b.nil c hbounded
  refine ⟨enough, r, hr, ?_⟩
  cases r with
  | ok v c' => exact .inl ⟨v, c', rfl⟩
  | error h c' =>
    cases h with
    | fault f => exact .inr ⟨f, c', rfl⟩
    | outOfFuel => exact absurd rfl hend

/-- Defines a function that goes on to one that is there already, and calls it. -/
def handOver : Program :=
  ⟨"exchange", [
    .define ⟨.str "exchange", .int 1⟩ "f" [] [.call ⟨.str "exchange", .int 2⟩ "g" []],
    .var ⟨.str "exchange", .int 3⟩ "f"]⟩

/-- A core with a function that calls by its bare name what is not defined yet. -/
def handedBack : Core Value World :=
  { fresh 5 .on (World.start .standard "") with
    functions := [("g",
      ⟨"g", [], [.var ⟨.str "exchange", .int 8⟩ "f"], ⟨.str "exchange", .int 7⟩⟩)] }

theorem Program.eval_terminates_of_exchange :
    LoopFree handOver.body ∧ (∀ e ∈ handedBack.functions, LoopFree e.2.body) ∧
      ∃ enough r, (∀ fuel, enough ≤ fuel → handOver.eval Bridges.reflective fuel handedBack = r) ∧
        ((∃ v c', r = .ok v c') ∨ ∃ f c', r = .error (.fault f) c') := by
  have hp : LoopFree handOver.body := by
    simp [LoopFree, handOver, Node.isLoop, Node.children, Node.parts]
  have hc : ∀ e ∈ handedBack.functions, LoopFree e.2.body := by
    simp [LoopFree, handedBack, Node.isLoop, Node.children, Node.parts]
  exact ⟨hp, hc, eval_terminates Bridges.reflective handOver handedBack hp hc⟩

end Treewalk
