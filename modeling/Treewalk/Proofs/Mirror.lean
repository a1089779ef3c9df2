import Mathlib.Data.List.Forall2
import Treewalk.Proofs.Stack

/-!
# An evaluation and its mirror image

An evaluation looks at its core in few places: at the active frame, at the function table, at the
room that is left on the stack, and at what the surroundings answer. Take a second evaluation of the
same node, in a core with other values, and let a function `φ` say which value of the second core
stands for which one of the first. If the surroundings answer alike, up to `φ`, the second
evaluation is an image of the first: it makes the same moves, ends in the same way, and its value is
the image of the first one's.

How two cores have to be related for this is left open. A relation that every step of the evaluator
keeps is a `Treewalk.Mirror`, and **`Treewalk.Mirror.eval`** says that the evaluator keeps it too.
The two sides may differ in the room on their stacks, as long as the second has room wherever the
first has. A push that is *blocked* in the first need not be so in the second, and what happens then
is not an image of anything; so blocked pushes are mirrored only on a condition `P`, which is a part
of the relation, and evaluations without blocked pushes are mirrored always.

The function tables of the two sides need not be the same either, as long as they agree on the names
that are looked up. Which names these are can be read off the nodes; so a `Treewalk.MirrorFor` is a
mirror for nodes of some kind only, and a `Treewalk.Mirror` is one for all nodes.
-/

namespace Treewalk

open Treewalk.Core

variable {V V' W W' α α' β β' : Type}

/-! ### Images of frames and moves -/

/-- A frame with other values. -/
def Frame.map (φ : V → V') (f : Frame V) : Frame V' := ⟨f.name, f.vars.map fun b => (b.1, φ b.2)⟩

/-- A call with other arguments. -/
def Request.map (φ : V → V') (r : Request V) : Request V' := ⟨r.name, r.args.map φ⟩

/-- The same move with other values. -/
def Move.map (φ : V → V') : Move V → Move V'
  | .has call target => .has (call.map φ) (φ target)
  | .invoke call target args => .invoke (call.map φ) (φ target) (args.map φ)
  | .truthy v => .truthy (φ v)
  | .assign name v => .assign name (φ v)
  | .define name => .define name
  | .enter name => .enter name
  | .leave => .leave

@[simp] theorem Frame.map_name (φ : V → V') (f : Frame V) : (f.map φ).name = f.name := rfl

theorem Frame.get?_map (φ : V → V') (f : Frame V) (name : String) :
    (f.map φ).get? name = (f.get? name).map φ := by
  simp only [Frame.get?, Frame.map]
  induction f.vars with
  | nil => rfl
  | cons b rest ih =>
    rw [List.map_cons, List.lookup_cons, List.lookup_cons, ih]
    cases name == b.1 <;> rfl

/-- **A push without room.** -/
def Turn.IsBlocked (t : Turn V W) : Prop :=
  match t.move with
  | .enter _ => t.core.maxDepth ≤ t.core.depth
  | _ => False

instance (t : Turn V W) : Decidable t.IsBlocked := by
  unfold Turn.IsBlocked
  split <;> infer_instance

/-! ### Images of results -/

/-- **A result is the image of another**: of its value, or of the way it failed; and the states that
they leave behind are related. -/
inductive Image {ε σ σ' : Type} (f : α → α') (R : σ → σ' → Prop) :
    EStateM.Result ε σ α → EStateM.Result ε σ' α' → Prop
  /-- The image of a value. -/
  | ok {a : α} {s : σ} {s' : σ'} : R s s' → Image f R (.ok a s) (.ok (f a) s')
  /-- The image of a failure. -/
  | error {e : ε} {s : σ} {s' : σ'} : R s s' → Image f R (.error e s) (.error e s')

theorem Image.imp {ε σ σ' : Type} {f : α → α'} {R Q : σ → σ' → Prop}
    {r : EStateM.Result ε σ α} {r' : EStateM.Result ε σ' α'} (hRQ : ∀ {s s'}, R s s' → Q s s')
    (h : Image f R r r') : Image f Q r r' := by
  cases h with
  | ok hR => exact .ok (hRQ hR)
  | error hR => exact .error (hRQ hR)

/-- **A computation is the image of another**: its moves are images of the other's moves, made from
related cores, and so is its result. -/
structure Mirrored (φ : V → V') (f : α → α') (R : Core V W → Core V' W' → Prop)
    (ts : List (Turn V W)) (r : EStateM.Result Halt (Core V W) α) (ts' : List (Turn V' W'))
    (r' : EStateM.Result Halt (Core V' W') α') : Prop where
  turns : List.Forall₂ (fun t t' => t'.move = t.move.map φ ∧ R t.core t'.core) ts ts'
  result : Image f R r r'

/-- A computation is the image of another, unless that one has a blocked push and `P` does not
hold. -/
def Mirrors (P : Prop) (φ : V → V') (f : α → α') (R : Core V W → Core V' W' → Prop)
    (ts : List (Turn V W)) (r : EStateM.Result Halt (Core V W) α) (ts' : List (Turn V' W'))
    (r' : EStateM.Result Halt (Core V' W') α') : Prop :=
  (∀ t ∈ ts, t.IsBlocked → P) → Mirrored φ f R ts r ts' r'

namespace Mirrors

variable {P : Prop} {φ : V → V'} {f : α → α'} {g : β → β'} {R Q : Core V W → Core V' W' → Prop}
  {ts : List (Turn V W)} {ts' : List (Turn V' W')} {c : Core V W} {d : Core V' W'}
  {x : Eval V W α} {x' : Eval V' W' α'} {y : α → Eval V W β} {y' : α' → Eval V' W' β'}

theorem of_quiet {r : EStateM.Result Halt (Core V W) α}
    {r' : EStateM.Result Halt (Core V' W') α'} (h : Image f R r r') :
    Mirrors P φ f R [] r [] r' :=
  fun _ => ⟨.nil, h⟩

theorem of_move {r : EStateM.Result Halt (Core V W) α}
    {r' : EStateM.Result Halt (Core V' W') α'} (move : Move V) (hc : R c d) (h : Image f R r r') :
    Mirrors P φ f R [⟨c, move⟩] r [⟨d, move.map φ⟩] r' :=
  fun _ => ⟨.cons ⟨rfl, hc⟩ .nil, h⟩

theorem pure (a : α) (hc : R c d) : Mirrors P φ f R [] (.ok a c) [] (.ok (f a) d) :=
  of_quiet (.ok hc)

/-- One computation after another, on both sides, where less is kept by the second. -/
theorem bindWeaken {next : α → Core V W → List (Turn V W)}
    {next' : α' → Core V' W' → List (Turn V' W')} (hweaken : ∀ {c d}, R c d → Q c d)
    (hx : Mirrors P φ f R ts (x c) ts' (x' d))
    (hy : ∀ a c₁ d₁, x c = .ok a c₁ → x' d = .ok (f a) d₁ → R c₁ d₁ →
      Mirrors P φ g Q (next a c₁) (y a c₁) (next' (f a) d₁) (y' (f a) d₁)) :
    Mirrors P φ g Q (ts ++ after (x c) next) ((x >>= y) c) (ts' ++ after (x' d) next')
      ((x' >>= y') d) := by
  intro hblocked
  obtain ⟨hturns, hresult⟩ := hx fun t ht => hblocked t (List.mem_append_left _ ht)
  have hturns := hturns.imp fun _ _ ht => And.imp_right hweaken ht
  generalize hr : x c = r at hresult hblocked
  generalize hr' : x' d = r' at hresult
  cases hresult with
  | @ok a c₁ d₁ hR =>
    have h := hy a c₁ d₁ hr hr' hR fun t ht => hblocked t (List.mem_append_right _ ht)
    rw [bind_of_ok hr, bind_of_ok hr']
    exact ⟨List.rel_append hturns h.turns, h.result⟩
  | error hR =>
    rw [bind_of_error hr, bind_of_error hr']
    exact ⟨by simpa using hturns, .error (hweaken hR)⟩

/-- **One computation after another**, on both sides. -/
theorem bind {next : α → Core V W → List (Turn V W)}
    {next' : α' → Core V' W' → List (Turn V' W')} (hx : Mirrors P φ f R ts (x c) ts' (x' d))
    (hy : ∀ a c₁ d₁, x c = .ok a c₁ → x' d = .ok (f a) d₁ → R c₁ d₁ →
      Mirrors P φ g R (next a c₁) (y a c₁) (next' (f a) d₁) (y' (f a) d₁)) :
    Mirrors P φ g R (ts ++ after (x c) next) ((x >>= y) c) (ts' ++ after (x' d) next')
      ((x' >>= y') d) :=
  hx.bindWeaken id hy

/-- What makes no turns can be put in front, and need not give the same. -/
theorem bindStep {a : α} {a' : α'} {c₁ : Core V W} {d₁ : Core V' W'} (hx : x c = .ok a c₁)
    (hx' : x' d = .ok a' d₁) (h : Mirrors P φ g R ts (y a c₁) ts' (y' a' d₁)) :
    Mirrors P φ g R ts ((x >>= y) c) ts' ((x' >>= y') d) := by
  rw [bind_of_ok hx, bind_of_ok hx']
  exact h

/-- What comes last and makes no turns can be put behind. -/
theorem bindLast (hx : Mirrors P φ f R ts (x c) ts' (x' d))
    (hy : ∀ a c₁ d₁, x c = .ok a c₁ → x' d = .ok (f a) d₁ → R c₁ d₁ →
      Image g R (y a c₁) (y' (f a) d₁)) :
    Mirrors P φ g R ts ((x >>= y) c) ts' ((x' >>= y') d) := by
  have h : Mirrors P φ g R (ts ++ after (x c) fun _ _ => []) ((x >>= y) c)
      (ts' ++ after (x' d) fun _ _ => []) ((x' >>= y') d) :=
    hx.bind fun a c₁ d₁ hc hd hR => of_quiet (hy a c₁ d₁ hc hd hR)
  simpa only [after_nil, List.append_nil] using h

theorem bindPure {k : α → β} {k' : α' → β'} (hx : Mirrors P φ f R ts (x c) ts' (x' d))
    (hk : ∀ a, k' (f a) = g (k a)) :
    Mirrors P φ g R ts ((x >>= fun a => Pure.pure (k a)) c) ts'
      ((x' >>= fun a => Pure.pure (k' a)) d) := by
  refine hx.bindLast fun a c₁ d₁ _ _ hR => ?_
  change Image g R (.ok (k a) c₁) (.ok (k' (f a)) d₁)
  rw [hk]
  exact .ok hR

end Mirrors

/-! ### What has to be kept for nodes of some kind -/

/-- The name that a node calls or defines, which is looked up in the function table. -/
def Node.mentioned? : Node → Option String
  | .var _ name | .call _ name _ | .define _ name _ _ => some name
  | _ => none

/-- **What a call of a function keeps**, when cores are related by `Q` around it and by `R` while
the body is carried out, which consists of nodes of a kind. -/
structure CallStepFor (T : Node → Prop) (P : Prop) (R Q : Core V W → Core V' W' → Prop) : Prop where
  weaken {c : Core V W} {d : Core V' W'} : R c d → Q c d
  body {c : Core V W} {d : Core V' W'} {name : String} {f : Function} :
    Q c d → c.functions.lookup name = some f → ∀ n ∈ f.body, T n
  room {c : Core V W} {d : Core V' W'} :
    Q c d → ¬ c.maxDepth ≤ (c.depth : Int) → ¬ d.maxDepth ≤ (d.depth : Int)
  full {c : Core V W} {d : Core V' W'} :
    P → Q c d → c.maxDepth ≤ (c.depth : Int) → d.maxDepth ≤ (d.depth : Int)
  noted {c : Core V W} {d : Core V' W'} (line line' : TraceLine) :
    Q c d → Q (c.noted line) (d.noted line')
  entered {c : Core V W} {d : Core V' W'} (name : String) (site : Option Place) :
    Q c d → R (c.entered name site) (d.entered name site)
  left {c c' : Core V W} {d d' : Core V' W'} : Q c d → R c' d' → c'.below = c.frame :: c.below →
    d'.below = d.frame :: d.below → Q c'.left d'.left

/-- **Two bridges and a relation between cores that every step keeps**, if it is made for a node of
some kind. Related cores agree, up to the images of values, in what the evaluator looks at on behalf
of such nodes, and every step leads from related cores to related ones. -/
structure MirrorFor (T : Node → Prop) (P : Prop) (φ : V → V') (b : Bridge V W) (b' : Bridge V' W')
    (R : Core V W → Core V' W' → Prop) : Prop extends CallStepFor T P R R where
  part {m n : Node} : T m → n ∈ m.parts → T n
  found {c : Core V W} {d : Core V' W'} {n : Node} {name : String} :
    R c d → T n → n.mentioned? = some name → d.functions.lookup name = c.functions.lookup name
  nil_eq : b'.nil = φ b.nil
  literal_eq (l : Literal) : b'.literal l = φ (b.literal l)
  environment_eq : b'.environment = φ b.environment
  frame_eq {c : Core V W} {d : Core V' W'} : R c d → d.frame = c.frame.map φ
  visited {c : Core V W} {d : Core V' W'} (n : Node) : R c d → R (c.visited n) (d.visited n)
  assigned {c : Core V W} {d : Core V' W'} (name : String) (v : V) :
    R c d → R (c.assigned name v) (d.assigned name (φ v))
  bound {c : Core V W} {d : Core V' W'} (params : List String) (args : List V) :
    R c d → R (c.bound params args) (d.bound params (args.map φ))
  defined {c : Core V W} {d : Core V' W'} {place : Place} {name : String} {params : List String}
    {body : List Node} : T (.define place name params body) → R c d →
    R (c.defined name ⟨name, params, body, place⟩) (d.defined name ⟨name, params, body, place⟩)
  text {c : Core V W} {d : Core V' W'} (s : String) :
    R c d → Image φ R (make (b.text s) c) (make (b'.text s) d)
  has {c : Core V W} {d : Core V' W'} (target : V) (name : String) :
    R c d → Image id R (ask (b.has target name) c) (ask (b'.has (φ target) name) d)
  invoke {c : Core V W} {d : Core V' W'} (target : V) (name : String) (args : List V) :
    R c d → Image φ R (ask (b.invoke c.activation target name args) c)
      (ask (b'.invoke d.activation (φ target) name (args.map φ)) d)
  truthy {c : Core V W} {d : Core V' W'} (v : V) :
    R c d → Image id R (ask (b.truthy v) c) (ask (b'.truthy (φ v)) d)

/-- The body of a function that returns leaves the frames below its own as they are. -/
theorem runBody_below {b : Bridge V W} {fuel : Nat} {f : Function} {args : List V} {v : V}
    {c c' : Core V W} (h : runBody b (eval b fuel) f args c = .ok v c') : c'.below = c.below := by
  by_cases hargs : args.length = f.params.length
  · rw [runBody_of_eq hargs] at h
    have hcourse := exec_follows (eval_follows b fuel f.body) f.body b.nil (c.bound f.params args)
      fun n hn => .top hn
    rw [h] at hcourse
    obtain ⟨extra, hextra, hg⟩ := hcourse.grown
    obtain rfl := hextra rfl
    exact hg.below_eq
  · rw [runBody_of_ne hargs] at h
    cases h

namespace MirrorFor

variable {T : Node → Prop} {P : Prop} {φ : V → V'} {b : Bridge V W} {b' : Bridge V' W'}
  {R Q : Core V W → Core V' W' → Prop} {fuel : Nat} {c : Core V W} {d : Core V' W'}

/-! ### The evaluator is mirrored -/

section Calls

variable (hm : MirrorFor T P φ b b' R)
  (ih : ∀ (n : Node) (c : Core V W) (d : Core V' W'), T n → R c d →
    Mirrors P φ φ R (turns b fuel n c) (Treewalk.eval b fuel n c) (turns b' fuel n d)
      (Treewalk.eval b' fuel n d))
include ih

theorem exec : ∀ (nodes : List Node) (last : V) (c : Core V W) (d : Core V' W'),
    (∀ n ∈ nodes, T n) → R c d →
    Mirrors P φ φ R (execTurns (Treewalk.eval b fuel) (turns b fuel) nodes c)
      (Core.exec (Treewalk.eval b fuel) last nodes c)
      (execTurns (Treewalk.eval b' fuel) (turns b' fuel) nodes d)
      (Core.exec (Treewalk.eval b' fuel) (φ last) nodes d)
  | [], last, _, _, _, hc => .pure last hc
  | n :: rest, _, c, d, hT, hc =>
    (ih n c d (hT n (by simp)) hc).bind fun v c₁ d₁ _ _ hR =>
      exec rest v c₁ d₁ (fun m hm => hT m (by simp [hm])) hR

theorem evalAll : ∀ (nodes : List Node) (c : Core V W) (d : Core V' W'),
    (∀ n ∈ nodes, T n) → R c d →
    Mirrors P φ (List.map φ) R (execTurns (Treewalk.eval b fuel) (turns b fuel) nodes c)
      (Core.evalAll (Treewalk.eval b fuel) nodes c)
      (execTurns (Treewalk.eval b' fuel) (turns b' fuel) nodes d)
      (Core.evalAll (Treewalk.eval b' fuel) nodes d)
  | [], _, _, _, hc => .pure [] hc
  | n :: rest, c, d, hT, hc =>
    (ih n c d (hT n (by simp)) hc).bind fun _ c₁ d₁ _ _ hR =>
      (evalAll rest c₁ d₁ (fun m hm => hT m (by simp [hm])) hR).bindPure fun _ => rfl

include hm

theorem runBody (f : Function) (args : List V) (hT : ∀ n ∈ f.body, T n) (hc : R c d) :
    Mirrors P φ φ R (bodyTurns (Treewalk.eval b fuel) (turns b fuel) f args c)
      (Core.runBody b (Treewalk.eval b fuel) f args c)
      (bodyTurns (Treewalk.eval b' fuel) (turns b' fuel) f (args.map φ) d)
      (Core.runBody b' (Treewalk.eval b' fuel) f (args.map φ) d) := by
  have hlength : (args.map φ).length = args.length := List.length_map ..
  by_cases hargs : args.length = f.params.length
  · rw [runBody_of_eq hargs, runBody_of_eq (hlength.trans hargs), hm.nil_eq]
    simp only [bodyTurns, if_pos hargs, if_pos (hlength.trans hargs)]
    exact exec ih f.body b.nil _ _ hT (hm.bound f.params args hc)
  · have hargs' : (args.map φ).length ≠ f.params.length := hlength ▸ hargs
    rw [runBody_of_ne hargs, runBody_of_ne hargs', hlength, hm.frame_eq hc, Frame.map_name]
    simp only [bodyTurns, if_neg hargs, if_neg hargs']
    exact .of_quiet (.error hc)

/-- **The first tier.** The frame that comes up when the function returns is that of the caller. -/
theorem callFunction (hq : CallStepFor T P R Q) (request : Request V) (site : Option Place)
    (hfound : d.functions.lookup request.name = c.functions.lookup request.name) (hc : Q c d) :
    Mirrors P φ (Option.map φ) Q
      (functionTurns b (Treewalk.eval b fuel) (turns b fuel) request site c)
      (Core.callFunction b (Treewalk.eval b fuel) request.name request.args site c)
      (functionTurns b' (Treewalk.eval b' fuel) (turns b' fuel) (request.map φ) site d)
      (Core.callFunction b' (Treewalk.eval b' fuel) request.name (request.args.map φ) site d) := by
  cases hf : c.functions.lookup request.name with
  | none =>
    have hf' : d.functions.lookup request.name = none := hfound.trans hf
    rw [callFunction_of_none hf, callFunction_of_none hf']
    simp only [functionTurns, Request.map, hf, hf']
    exact .pure none hc
  | some f =>
    have hf' : d.functions.lookup request.name = some f := hfound.trans hf
    rw [callFunction_of_some hf, callFunction_of_some hf']
    simp only [functionTurns, Request.map, hf, hf', List.length_map]
    have hnoted := hq.noted (.user request.name request.args.length)
      (.user request.name request.args.length) hc
    generalize c.noted (.user request.name request.args.length) = c₀ at hnoted ⊢
    generalize d.noted (.user request.name request.args.length) = d₀ at hnoted ⊢
    by_cases hfull : c₀.maxDepth ≤ c₀.depth
    · -- a blocked push is mirrored only on the condition
      intro hblocked
      have hP : P := hblocked ⟨c₀, .enter request.name⟩ (by simp) hfull
      have hfull' := hq.full hP hnoted hfull
      refine (Mirrors.of_move (f := id) (.enter request.name) hnoted ?_).bind ?_ hblocked
      · rw [enter_of_full hfull, enter_of_full hfull']
        exact .error hnoted
      · intro _ _ _ henter
        rw [enter_of_full hfull] at henter
        cases henter
    · have hfull' := hq.room hnoted hfull
      have hentered := hq.entered request.name site hnoted
      refine (Mirrors.of_move (f := id) (.enter request.name) hnoted ?_).bind ?_
      · rw [enter_of_room hfull, enter_of_room hfull']
        exact .ok (hq.weaken hentered)
      · intro _ c₁ d₁ henter henter' _
        rw [enter_of_room hfull] at henter
        rw [enter_of_room hfull'] at henter'
        cases henter
        cases henter'
        refine (runBody hm ih f request.args (hq.body hc hf) hentered).bindWeaken hq.weaken
          fun v c₂ d₂ hv hv' hR => ?_
        -- what comes up is the frame of the caller, on both sides
        have hbelow : c₂.below = c₀.frame :: c₀.below := (runBody_below hv).trans (by simp)
        have hbelow' : d₂.below = d₀.frame :: d₀.below := (runBody_below hv').trans (by simp)
        refine .of_move .leave (hq.weaken hR) ?_
        rw [bind_of_ok (leave_apply c₂), bind_of_ok (leave_apply d₂)]
        exact .ok (hq.left hnoted hR hbelow hbelow')

omit ih

/-- The second and the third tier. -/
theorem offer {line : W → TraceLine} {line' : W' → TraceLine} (request : Request V) (target : V)
    (args : List V) (hc : R c d) :
    Mirrors P φ (Option.map φ) R (offerTurns b line request target args c)
      (Core.offer b line target request.name args c)
      (offerTurns b' line' (request.map φ) (φ target) (args.map φ) d)
      (Core.offer b' line' (φ target) request.name (args.map φ) d) := by
  refine (Mirrors.of_move (.has request target) hc (hm.has target request.name hc)).bind
    fun known c₁ d₁ _ _ hR => ?_
  cases known with
  | false => exact .pure none hR
  | true =>
    have hnoted := hm.noted (line c₁.world) (line' d₁.world) hR
    refine .bindStep (get_apply c₁) (get_apply d₁) ?_
    refine .bindStep (note_apply _ c₁) (note_apply _ d₁) ?_
    refine .bindStep (get_apply _) (get_apply _) ?_
    exact (Mirrors.of_move (.invoke request target args) hnoted
      (hm.invoke target request.name args hnoted)).bindPure fun _ => rfl

include ih

/-- **The tiers of a call**, one after the other. -/
theorem resolve (request : Request V) (site : Option Place)
    (hfound : d.functions.lookup request.name = c.functions.lookup request.name) (hc : R c d) :
    Mirrors P φ (Option.map φ) R
      (resolveTurns b (Treewalk.eval b fuel) (turns b fuel) request site c)
      (Core.resolve b (Treewalk.eval b fuel) request.name request.args site c)
      (resolveTurns b' (Treewalk.eval b' fuel) (turns b' fuel) (request.map φ) site d)
      (Core.resolve b' (Treewalk.eval b' fuel) request.name (request.args.map φ) site d) := by
  refine (callFunction hm ih hm.toCallStepFor request site hfound hc).bind fun r c₁ d₁ _ _ h₁ => ?_
  cases r with
  | some v => exact .pure (some v) h₁
  | none =>
    simp only [environmentTurns, callEnvironment_eq_offer, Request.map, hm.environment_eq]
    refine (offer hm request b.environment request.args h₁).bind fun r c₂ d₂ _ _ h₂ => ?_
    cases r with
    | some v => exact .pure (some v) h₂
    | none =>
      cases hargs : request.args with
      | nil =>
        simp only [receiverTurns, hargs, List.map_nil]
        exact .pure none h₂
      | cons target rest =>
        simp only [receiverTurns, hargs, List.map_cons, callReceiver_eq_offer, Option.map_none]
        have hrequest : request.map φ = ⟨request.name, φ target :: rest.map φ⟩ := by
          rw [Request.map, hargs, List.map_cons]
        rw [← hrequest]
        exact offer hm request target rest h₂

/-- A name that no tier knows is the same fault on both sides. -/
theorem unresolved (request : Request V) (site : Option Place) (use : Use) (place : Place)
    (hfound : d.functions.lookup request.name = c.functions.lookup request.name) (hc : R c d) :
    Mirrors P φ φ R (resolveTurns b (Treewalk.eval b fuel) (turns b fuel) request site c)
      ((do
        match ← Core.resolve b (Treewalk.eval b fuel) request.name request.args site with
        | some v => return v
        | none => raise (.unresolved request.name use) place : Eval V W V) c)
      (resolveTurns b' (Treewalk.eval b' fuel) (turns b' fuel) (request.map φ) site d)
      ((do
        match ← Core.resolve b' (Treewalk.eval b' fuel) request.name (request.args.map φ) site with
        | some v => return v
        | none => raise (.unresolved request.name use) place : Eval V' W' V') d) := by
  refine (resolve hm ih request site hfound hc).bindLast fun r c₁ d₁ _ _ hR => ?_
  cases r with
  | some v => exact .ok hR
  | none => exact .error hR

omit hm ih

/-- Moving a fault to a place keeps an image. -/
theorem located {ts : List (Turn V W)} {ts' : List (Turn V' W')} {x : Eval V W V}
    {x' : Eval V' W' V'} (place : Place) (h : Mirrors P φ φ R ts (x c) ts' (x' d)) :
    Mirrors P φ φ R ts (Core.located place x c) ts' (Core.located place x' d) := by
  intro hblocked
  obtain ⟨hturns, hresult⟩ := h hblocked
  refine ⟨hturns, ?_⟩
  unfold Core.located
  generalize x c = r at hresult
  generalize x' d = r' at hresult
  cases hresult with
  | ok hR => exact .ok hR
  | @error halt _ _ hR => cases halt with
    | fault f => exact .error hR
    | outOfFuel => exact .error hR

end Calls

/-- **The evaluation of a node of the kind is mirrored.** -/
theorem eval (hm : MirrorFor T P φ b b' R) (fuel : Nat) :
    ∀ (n : Node) (c : Core V W) (d : Core V' W'), T n → R c d →
      Mirrors P φ φ R (turns b fuel n c) (Treewalk.eval b fuel n c) (turns b' fuel n d)
        (Treewalk.eval b' fuel n d) := by
  induction fuel with
  | zero => exact fun _ _ _ _ hc => .of_quiet (.error hc)
  | succ fuel ih =>
    intro n c d hn hc
    have hvisit {c : Core V W} {d : Core V' W'} (h : R c d) := hm.visited n h
    have hpart {m : Node} (h : m ∈ n.parts) : T m := hm.part hn h
    cases n with
    | literal place v =>
      refine .bindStep (visit_apply _ c) (visit_apply _ d) ?_
      rw [hm.literal_eq]
      exact .pure (b.literal v) (hvisit hc)
    | string place text =>
      refine .bindStep (visit_apply _ c) (visit_apply _ d) ?_
      exact .of_quiet (hm.text text (hvisit hc))
    | var place name =>
      simp only [turns, Treewalk.eval]
      refine .bindStep (visit_apply _ c) (visit_apply _ d) ?_
      refine .bindStep (get_apply _) (get_apply _) ?_
      simp only [visited_frame, hm.frame_eq hc, Frame.get?_map]
      cases c.frame.get? name with
      | some v => exact .pure v (hvisit hc)
      | none =>
        exact located place (unresolved hm ih ⟨name, []⟩ (some place) .bare place
          (hm.found (hvisit hc) hn rfl) (hvisit hc))
    | assign place name value =>
      simp only [turns, Treewalk.eval]
      refine .bindStep (visit_apply _ c) (visit_apply _ d) ?_
      refine (ih value _ _ (hpart (by simp [Node.parts])) (hvisit hc)).bind fun v c₁ d₁ _ _ hR => ?_
      exact .of_move (.assign name v) hR (.ok (hm.assigned name v hR))
    | cond place test thenBody elseBody =>
      simp only [turns, Treewalk.eval]
      refine (ih test c d (hpart (by simp [Node.parts])) hc).bind fun v c₁ d₁ _ _ hR => ?_
      refine .bindStep (visit_apply _ c₁) (visit_apply _ d₁) ?_
      refine (Mirrors.of_move (.truthy v) (hvisit hR) (hm.truthy v (hvisit hR))).bind
        fun truth c₂ d₂ _ _ hR₂ => ?_
      rw [hm.nil_eq]
      cases truth with
      | true => exact exec ih thenBody b.nil c₂ d₂ (fun m h => hpart (by simp [Node.parts, h])) hR₂
      | false =>
        cases elseBody with
        | some inner =>
          exact exec ih inner b.nil c₂ d₂ (fun m h => hpart (by simp [Node.parts, h])) hR₂
        | none => exact .pure b.nil hR₂
    | loop place test body =>
      simp only [turns, Treewalk.eval]
      refine (ih test c d (hpart (by simp [Node.parts])) hc).bind fun v c₁ d₁ _ _ hR => ?_
      refine .bindStep (visit_apply _ c₁) (visit_apply _ d₁) ?_
      refine (Mirrors.of_move (.truthy v) (hvisit hR) (hm.truthy v (hvisit hR))).bind
        fun truth c₂ d₂ _ _ hR₂ => ?_
      rw [hm.nil_eq]
      cases truth with
      | true =>
        have hbody (m : Node) (h : m ∈ body) : T m := hpart (by simp [Node.parts, h])
        exact (exec ih body b.nil c₂ d₂ hbody hR₂).bind fun _ c₃ d₃ _ _ hR₃ => ih _ c₃ d₃ hn hR₃
      | false => exact .pure b.nil hR₂
    | define place name params body =>
      simp only [turns, Treewalk.eval]
      refine .bindStep (visit_apply _ c) (visit_apply _ d) ?_
      rw [hm.nil_eq]
      refine Mirrors.bindPure (f := id) (.of_move (.define name) (hvisit hc) ?_) fun _ => rfl
      have hfound := hm.found hc hn rfl
      cases hf : c.functions.lookup name with
      | none =>
        have hf' : d.functions.lookup name = none := hfound.trans hf
        rw [define_of_new (by simpa using hf), define_of_new (by simpa using hf')]
        exact .ok (hm.defined hn (hvisit hc))
      | some f =>
        have hf' : d.functions.lookup name = some f := hfound.trans hf
        rw [define_of_known (by simp [hf]), define_of_known (by simp [hf'])]
        exact .error (hvisit hc)
    | call place name args =>
      simp only [turns, Treewalk.eval]
      refine (evalAll ih args c d (fun m h => hpart h) hc).bind fun vs c₁ d₁ _ _ hR => ?_
      refine .bindStep (visit_apply _ c₁) (visit_apply _ d₁) ?_
      exact located place (unresolved hm ih ⟨name, vs⟩ (some place) .call place
        (hm.found (hvisit hR) hn rfl) (hvisit hR))

/-- **The evaluation of a program of such nodes is mirrored.** -/
theorem program (hm : MirrorFor T P φ b b' R) (fuel : Nat) (p : Program) (hp : ∀ n ∈ p.body, T n)
    (hc : R c d) :
    Mirrors P φ φ R (p.turns b fuel c) (p.eval b fuel c) (p.turns b' fuel d) (p.eval b' fuel d) := by
  unfold Program.turns Program.eval
  rw [hm.nil_eq]
  exact exec (hm.eval fuel) p.body b.nil c d hp hc

end MirrorFor

/-! ### What has to be kept for all nodes -/

/-- **What a call of a function keeps**, when cores are related by `Q` around it and by `R` while
the body is carried out. -/
structure Mirror.CallStep (P : Prop) (R Q : Core V W → Core V' W' → Prop) : Prop where
  weaken {c : Core V W} {d : Core V' W'} : R c d → Q c d
  functions_eq {c : Core V W} {d : Core V' W'} : Q c d → d.functions = c.functions
  room {c : Core V W} {d : Core V' W'} :
    Q c d → ¬ c.maxDepth ≤ (c.depth : Int) → ¬ d.maxDepth ≤ (d.depth : Int)
  full {c : Core V W} {d : Core V' W'} :
    P → Q c d → c.maxDepth ≤ (c.depth : Int) → d.maxDepth ≤ (d.depth : Int)
  noted {c : Core V W} {d : Core V' W'} (line line' : TraceLine) :
    Q c d → Q (c.noted line) (d.noted line')
  entered {c : Core V W} {d : Core V' W'} (name : String) (site : Option Place) :
    Q c d → R (c.entered name site) (d.entered name site)
  left {c c' : Core V W} {d d' : Core V' W'} : Q c d → R c' d' → c'.below = c.frame :: c.below →
    d'.below = d.frame :: d.below → Q c'.left d'.left

/-- **Two bridges and a relation between cores that every step keeps.** Related cores agree, up to
the images of values, in what the evaluator looks at, and every step leads from related cores to
related ones. -/
structure Mirror (P : Prop) (φ : V → V') (b : Bridge V W) (b' : Bridge V' W')
    (R : Core V W → Core V' W' → Prop) : Prop extends Mirror.CallStep P R R where
  nil_eq : b'.nil = φ b.nil
  literal_eq (l : Literal) : b'.literal l = φ (b.literal l)
  environment_eq : b'.environment = φ b.environment
  frame_eq {c : Core V W} {d : Core V' W'} : R c d → d.frame = c.frame.map φ
  visited {c : Core V W} {d : Core V' W'} (n : Node) : R c d → R (c.visited n) (d.visited n)
  assigned {c : Core V W} {d : Core V' W'} (name : String) (v : V) :
    R c d → R (c.assigned name v) (d.assigned name (φ v))
  bound {c : Core V W} {d : Core V' W'} (params : List String) (args : List V) :
    R c d → R (c.bound params args) (d.bound params (args.map φ))
  defined {c : Core V W} {d : Core V' W'} (name : String) (f : Function) :
    R c d → R (c.defined name f) (d.defined name f)
  text {c : Core V W} {d : Core V' W'} (s : String) :
    R c d → Image φ R (make (b.text s) c) (make (b'.text s) d)
  has {c : Core V W} {d : Core V' W'} (target : V) (name : String) :
    R c d → Image id R (ask (b.has target name) c) (ask (b'.has (φ target) name) d)
  invoke {c : Core V W} {d : Core V' W'} (target : V) (name : String) (args : List V) :
    R c d → Image φ R (ask (b.invoke c.activation target name args) c)
      (ask (b'.invoke d.activation (φ target) name (args.map φ)) d)
  truthy {c : Core V W} {d : Core V' W'} (v : V) :
    R c d → Image id R (ask (b.truthy v) c) (ask (b'.truthy (φ v)) d)

theorem Mirror.CallStep.forAll {P : Prop} {R Q : Core V W → Core V' W' → Prop}
    (h : CallStep P R Q) : CallStepFor (fun _ => True) P R Q where
  weaken := h.weaken
  body _ _ _ _ := trivial
  room := h.room
  full := h.full
  noted := h.noted
  entered := h.entered
  left := h.left

namespace Mirror

variable {P : Prop} {φ : V → V'} {b : Bridge V W} {b' : Bridge V' W'}
  {R Q : Core V W → Core V' W' → Prop} {fuel : Nat} {c : Core V W} {d : Core V' W'}

/-- A mirror is one for all nodes. -/
theorem forAll (hm : Mirror P φ b b' R) : MirrorFor (fun _ => True) P φ b b' R where
  toCallStepFor := hm.toCallStep.forAll
  part _ _ := trivial
  found hc _ _ := by rw [hm.functions_eq hc]
  nil_eq := hm.nil_eq
  literal_eq := hm.literal_eq
  environment_eq := hm.environment_eq
  frame_eq := hm.frame_eq
  visited := hm.visited
  assigned := hm.assigned
  bound := hm.bound
  defined _ hc := hm.defined _ _ hc
  text := hm.text
  has := hm.has
  invoke := hm.invoke
  truthy := hm.truthy

/-- **The first tier is mirrored**, if the evaluator is. -/
theorem callFunction (hm : Mirror P φ b b' R)
    (ih : ∀ (n : Node) (c : Core V W) (d : Core V' W'), R c d →
      Mirrors P φ φ R (turns b fuel n c) (Treewalk.eval b fuel n c) (turns b' fuel n d)
        (Treewalk.eval b' fuel n d))
    (hq : CallStep P R Q) (request : Request V) (site : Option Place) (hc : Q c d) :
    Mirrors P φ (Option.map φ) Q
      (functionTurns b (Treewalk.eval b fuel) (turns b fuel) request site c)
      (Core.callFunction b (Treewalk.eval b fuel) request.name request.args site c)
      (functionTurns b' (Treewalk.eval b' fuel) (turns b' fuel) (request.map φ) site d)
      (Core.callFunction b' (Treewalk.eval b' fuel) request.name (request.args.map φ) site d) :=
  hm.forAll.callFunction (fun n c d _ => ih n c d) hq.forAll request site
    (by rw [hq.functions_eq hc]) hc

/-- **The evaluation of a node is mirrored.** -/
theorem eval (hm : Mirror P φ b b' R) (fuel : Nat) (n : Node) (c : Core V W) (d : Core V' W')
    (hc : R c d) :
    Mirrors P φ φ R (turns b fuel n c) (Treewalk.eval b fuel n c) (turns b' fuel n d)
      (Treewalk.eval b' fuel n d) :=
  hm.forAll.eval fuel n c d trivial hc

/-- **The evaluation of a program is mirrored.** -/
theorem program (hm : Mirror P φ b b' R) (fuel : Nat) (p : Program) (hc : R c d) :
    Mirrors P φ φ R (p.turns b fuel c) (p.eval b fuel c) (p.turns b' fuel d) (p.eval b' fuel d) :=
  hm.forAll.program fuel p (fun _ _ => trivial) hc

end Mirror

/-! ### Cores that are alike, and bridges that answer alike

The relations that are used have much in common: one core is the other with images for values, and
with related surroundings. Then all that is left to be shown is about the bridges. -/

/-- **Two bridges answer alike**, up to the images of values, when their surroundings are
related. -/
structure Bridge.Echoes (φ : V → V') (S : W → W' → Prop) (b : Bridge V W) (b' : Bridge V' W') :
    Prop where
  nil_eq : b'.nil = φ b.nil
  literal_eq (l : Literal) : b'.literal l = φ (b.literal l)
  environment_eq : b'.environment = φ b.environment
  text {w : W} {w' : W'} (s : String) : S w w' → (b'.text s w').1 = φ (b.text s w).1 ∧
    S (b.text s w).2 (b'.text s w').2
  has {w : W} {w' : W'} (target : V) (name : String) :
    S w w' → Image id S (b.has target name w) (b'.has (φ target) name w')
  invoke {w : W} {w' : W'} (activation : Activation) (target : V) (name : String) (args : List V) :
    S w w' → Image φ S (b.invoke activation target name args w)
      (b'.invoke activation (φ target) name (args.map φ) w')
  truthy {w : W} {w' : W'} (v : V) : S w w' → Image id S (b.truthy v w) (b'.truthy (φ v) w')

/-- **A core is like another**, with images for values: all is the same but the limit of the stack,
the surroundings and the trace, and the first two are related. -/
structure Core.Likeness (φ : V → V') (L : Int → Int → Prop) (S : W → W' → Prop) (c : Core V W)
    (d : Core V' W') : Prop where
  limit : L c.maxDepth d.maxDepth
  functions_eq : d.functions = c.functions
  frame_eq : d.frame = c.frame.map φ
  below_eq : d.below = c.below.map (Frame.map φ)
  calls_eq : d.calls = c.calls
  current_eq : d.current = c.current
  world : S c.world d.world

theorem Frame.bind_map (φ : V → V') (name : String) (v : V) : ∀ vars : List (String × V),
    (Frame.bind name v vars).map (fun b => (b.1, φ b.2)) =
      Frame.bind name (φ v) (vars.map fun b => (b.1, φ b.2))
  | [] => rfl
  | (n, x) :: rest => by
    simp only [Frame.bind, List.map_cons]
    split
    · rfl
    · rw [List.map_cons, Frame.bind_map]

theorem Frame.set_map (φ : V → V') (f : Frame V) (name : String) (v : V) :
    (f.set name v).map φ = (f.map φ).set name (φ v) := by
  simp only [Frame.map, Frame.set, Frame.bind_map]

theorem Frame.setAll_map (φ : V → V') (f : Frame V) (params : List String) (args : List V) :
    (f.setAll params args).map φ = (f.map φ).setAll params (args.map φ) := by
  unfold Frame.setAll
  induction params generalizing f args with
  | nil => rfl
  | cons p rest ih =>
    cases args with
    | nil => rfl
    | cons v args =>
      simp only [List.map_cons, List.zip_cons_cons, List.foldl_cons, ← Frame.set_map, ih]

namespace Core.Likeness

variable {P : Prop} {φ : V → V'} {L : Int → Int → Prop} {S : W → W' → Prop} {c : Core V W}
  {d : Core V' W'}

theorem depth_eq (h : Likeness φ L S c d) : d.depth = c.depth := by
  rw [depth, depth, h.below_eq, List.length_map]

theorem activation_eq (h : Likeness φ L S c d) : d.activation = c.activation := by
  rw [activation, activation, h.frame_eq, h.depth_eq, Frame.map_name]

theorem noted (h : Likeness φ L S c d) (line line' : TraceLine) :
    Likeness φ L S (c.noted line) (d.noted line') :=
  ⟨by simpa using h.limit, by simpa using h.functions_eq, by simpa using h.frame_eq,
    by simpa using h.below_eq, by simpa using h.calls_eq, by simpa using h.current_eq,
    by simpa using h.world⟩

theorem inWorld (h : Likeness φ L S c d) {w : W} {w' : W'} (hw : S w w') :
    Likeness φ L S (c.inWorld w) (d.inWorld w') :=
  ⟨h.limit, h.functions_eq, h.frame_eq, h.below_eq, h.calls_eq, h.current_eq, hw⟩

theorem entered (h : Likeness φ L S c d) (name : String) (site : Option Place) :
    Likeness φ L S (c.entered name site) (d.entered name site) :=
  ⟨by simpa using h.limit, by simpa using h.functions_eq, by simp [Frame.map],
    by simp [h.frame_eq, h.below_eq], by simp [h.calls_eq], by simpa using h.current_eq,
    by simpa using h.world⟩

theorem left (h : Likeness φ L S c d) : Likeness φ L S c.left d.left := by
  cases hb : c.below with
  | nil =>
    have hc : c.left = c := by simp [Core.left, hb]
    have hd : d.left = d := by simp [Core.left, h.below_eq, hb]
    rwa [hc, hd]
  | cons f rest =>
    obtain ⟨hframe, hbelow, hcalls⟩ := left_of_below hb
    have hb' : d.below = f.map φ :: rest.map (Frame.map φ) := by rw [h.below_eq, hb, List.map_cons]
    obtain ⟨hframe', hbelow', hcalls'⟩ := left_of_below hb'
    refine ⟨by simpa using h.limit, by simpa using h.functions_eq, ?_, ?_, ?_,
      by simpa using h.current_eq, by simpa using h.world⟩
    · rw [hframe, hframe']
    · rw [hbelow, hbelow']
    · rw [hcalls, hcalls', h.calls_eq]

/-- An answer of related surroundings is taken over into cores that are alike. -/
theorem ask (h : Likeness φ L S c d) {f : α → α'} {x : Ask W α} {y : Ask W' α'}
    (hxy : Image f S (x c.world) (y d.world)) :
    Image f (Likeness φ L S) (Core.ask x c) (Core.ask y d) := by
  generalize hr : x c.world = r at hxy
  generalize hr' : y d.world = r' at hxy
  cases hxy with
  | ok hw =>
    rw [ask_of_ok hr, ask_of_ok hr']
    exact .ok (h.inWorld hw)
  | error hw =>
    rw [ask_of_error hr, ask_of_error hr']
    exact .error (h.inWorld hw)

/-- **Cores that are alike mirror each other** when their bridges answer alike. The limit of the
second has to be as high as that of the first, and the same if blocked pushes are to be mirrored. -/
theorem mirror {b : Bridge V W} {b' : Bridge V' W'} (hb : b.Echoes φ S b')
    (hle : ∀ m n, L m n → m ≤ n) (heq : P → ∀ m n, L m n → n ≤ m) :
    Mirror P φ b b' (Likeness φ L S) where
  nil_eq := hb.nil_eq
  literal_eq := hb.literal_eq
  environment_eq := hb.environment_eq
  weaken h := h
  frame_eq h := h.frame_eq
  functions_eq h := h.functions_eq
  room h hroom := by
    have := hle _ _ h.limit
    have := h.depth_eq
    omega
  full hP h hfull := by
    have := heq hP _ _ h.limit
    have := h.depth_eq
    omega
  noted line line' h := h.noted line line'
  visited _ h :=
    ⟨h.limit, h.functions_eq, h.frame_eq, h.below_eq, h.calls_eq, rfl, h.world⟩
  assigned name v h :=
    ⟨h.limit, h.functions_eq, by simp [h.frame_eq, Frame.set_map], h.below_eq, h.calls_eq,
      h.current_eq, h.world⟩
  bound params args h :=
    ⟨h.limit, h.functions_eq, by simp [h.frame_eq, Frame.setAll_map], h.below_eq, h.calls_eq,
      h.current_eq, h.world⟩
  defined _ _ h :=
    ⟨by simpa using h.limit, by simp [h.functions_eq], by simpa using h.frame_eq,
      by simpa using h.below_eq, by simpa using h.calls_eq, by simpa using h.current_eq,
      by simpa using h.world⟩
  entered name site h := h.entered name site
  left _ h' _ _ := h'.left
  text s h := by
    obtain ⟨hv, hw⟩ := hb.text s h.world
    rw [make_apply, make_apply, hv]
    exact .ok (h.inWorld hw)
  has target name h := h.ask (hb.has target name h.world)
  invoke target name args h := by
    rw [h.activation_eq]
    exact h.ask (hb.invoke _ target name args h.world)
  truthy v h := h.ask (hb.truthy v h.world)

end Core.Likeness

end Treewalk
