import Treewalk.Host.Bridges
import Treewalk.Proofs.Course

/-!
# The discipline of the frame stack

Frames are pushed and popped without any protection: a function that fails leaves its frame where it
is. This file says what can be relied on all the same.

An operation that returns has touched no frame but the active one, and that one has only gained
variables. An operation that fails has left the old stack standing, with new frames on top of it,
and the chain of calls has grown by one entry for each of them. Both are one relation,
`Treewalk.Core.Grown`, with the list of frames that were left on top; the list is empty unless
something failed. The chain of calls and the frames stay in step at every moment
(`Treewalk.Core.WellStacked`), and the stack never outgrows its limit.

* **`Treewalk.Course.grown`** and **`Treewalk.Course.wellStacked`**: the two facts along every
  course.
* **`Treewalk.Core.stack_discipline`**: what they say of every operation, in every core that
  operations can lead to.
-/

namespace Treewalk

/-! ### Frames that gain variables -/

namespace Frame

variable {V : Type}

/-- The names of the variables, in the order of their first binding. -/
def names (f : Frame V) : List String := f.vars.map (·.1)

/-- **A frame goes on from another**: it has the same name, and the variables of the other come
first among its own, in the same order. -/
structure Extends (f g : Frame V) : Prop where
  name_eq : g.name = f.name
  names_prefix : f.names <+: g.names

theorem Extends.refl (f : Frame V) : f.Extends f := ⟨rfl, List.prefix_refl _⟩

theorem Extends.trans {f g h : Frame V} (hfg : f.Extends g) (hgh : g.Extends h) : f.Extends h :=
  ⟨hgh.name_eq.trans hfg.name_eq, hfg.names_prefix.trans hgh.names_prefix⟩

/-- Binding a variable keeps the names that are bound. -/
theorem names_bind (name : String) (v : V) :
    ∀ vars : List (String × V), vars.map (·.1) <+: (bind name v vars).map (·.1)
  | [] => List.nil_prefix
  | (n, x) :: rest => by
    unfold bind
    split
    · exact List.prefix_refl _
    · simpa using names_bind name v rest

theorem Extends.set (f : Frame V) (name : String) (v : V) : f.Extends (f.set name v) :=
  ⟨rfl, names_bind name v f.vars⟩

theorem Extends.setAll (f : Frame V) (params : List String) (args : List V) :
    f.Extends (f.setAll params args) := by
  unfold Frame.setAll
  induction params.zip args generalizing f with
  | nil => exact .refl f
  | cons p rest ih => exact (Extends.set f p.1 p.2).trans (ih _)

end Frame

namespace Core

variable {V W α : Type}

/-- The frames of a core, the active one first. -/
def stack (c : Core V W) : List (Frame V) := c.frame :: c.below

/-! ### What is left on the stack -/

/-- **One core has come from another, with frames left on top**: the old active frame may have
gained variables, those below it are as they were, and there is one call for each frame on top. -/
structure Grown (extra : List (Frame V)) (c c' : Core V W) : Prop where
  maxDepth_eq : c'.maxDepth = c.maxDepth
  stack_eq : ∃ f, c.frame.Extends f ∧ c'.stack = extra ++ f :: c.below
  calls_eq : ∃ entries, c'.calls = entries ++ c.calls ∧
    entries.map CallEntry.name = extra.map Frame.name

namespace Grown

variable {extra : List (Frame V)} {c c' c'' : Core V W}

theorem of_frame (hmax : c'.maxDepth = c.maxDepth) (hframe : c.frame.Extends c'.frame)
    (hbelow : c'.below = c.below) (hcalls : c'.calls = c.calls) : Grown [] c c' :=
  ⟨hmax, ⟨c'.frame, hframe, by simp [stack, hbelow]⟩, ⟨[], by simp [hcalls], rfl⟩⟩

theorem refl (c : Core V W) : Grown [] c c := of_frame rfl (.refl _) rfl rfl

theorem frame_extends (h : Grown [] c c') : c.frame.Extends c'.frame := by
  obtain ⟨f, hf, hs⟩ := h.stack_eq
  simp only [stack, List.nil_append, List.cons.injEq] at hs
  exact hs.1 ▸ hf

theorem below_eq (h : Grown [] c c') : c'.below = c.below := by
  obtain ⟨f, -, hs⟩ := h.stack_eq
  simp only [stack, List.nil_append, List.cons.injEq] at hs
  exact hs.2

theorem calls_eq_of_nil (h : Grown [] c c') : c'.calls = c.calls := by
  obtain ⟨entries, hcalls, hnames⟩ := h.calls_eq
  simp only [List.map_nil, List.map_eq_nil_iff] at hnames
  simpa [hnames] using hcalls

theorem trans (h : Grown [] c c') (h' : Grown extra c' c'') : Grown extra c c'' := by
  obtain ⟨f, hf, hs⟩ := h'.stack_eq
  refine ⟨h'.maxDepth_eq.trans h.maxDepth_eq, ⟨f, h.frame_extends.trans hf, ?_⟩, ?_⟩
  · rw [hs, h.below_eq]
  · rw [← h.calls_eq_of_nil]
    exact h'.calls_eq

/-- The frame of a function that failed is left on top of its caller's. -/
theorem of_entered {name : String} {site : Option Place}
    (h : Grown extra (c.entered name site) c') : ∃ f, Grown (extra ++ [f]) c c' := by
  obtain ⟨f, hf, hs⟩ := h.stack_eq
  obtain ⟨entries, hcalls, hnames⟩ := h.calls_eq
  have hname : f.name = name := by simpa using hf.name_eq
  refine ⟨f, by simpa using h.maxDepth_eq, ⟨c.frame, .refl _, by simpa using hs⟩,
    entries ++ [⟨name, site.getD .nowhere⟩], by simpa using hcalls, ?_⟩
  simp [hnames, hname]

/-- The frame of a function that returned is gone. -/
theorem left {name : String} {site : Option Place}
    (h : Grown [] (c.entered name site) c') : Grown [] c c'.left := by
  have hbelow : c'.below = c.frame :: c.below := by simpa using h.below_eq
  have hcalls : c'.calls = ⟨name, site.getD .nowhere⟩ :: c.calls := by
    simpa using h.calls_eq_of_nil
  obtain ⟨hf, hb, hc⟩ := left_of_below hbelow
  refine of_frame (by simpa using h.maxDepth_eq) (hf ▸ .refl _) hb ?_
  rw [hc, hcalls, List.tail_cons]

end Grown

theorem Grown.inWorld (c : Core V W) (w : W) : Grown [] c (c.inWorld w) :=
  .of_frame rfl (.refl _) rfl rfl

theorem Grown.noted (c : Core V W) (line : TraceLine) : Grown [] c (c.noted line) :=
  .of_frame (by simp) (by simpa using .refl _) (by simp) (by simp)

theorem Grown.bound (c : Core V W) (params : List String) (args : List V) :
    Grown [] c (c.bound params args) :=
  .of_frame rfl (.setAll _ _ _) rfl rfl

theorem Grown.defined (c : Core V W) (name : String) (f : Function) :
    Grown [] c (c.defined name f) :=
  .of_frame (by simp) (by simpa using .refl _) (by simp) (by simp)

theorem Grown.assigned (c : Core V W) (name : String) (v : V) : Grown [] c (c.assigned name v) :=
  .of_frame rfl (.set _ _ _) rfl rfl

end Core

open Treewalk.Core

variable {V W : Type}

/-- **Along a course** the stack is kept, and frames are left on top only if it halts. -/
theorem Course.grown {b : Bridge V W} {s : Subject V} {c c' : Core V W} {ts : List (Turn V W)}
    {o : Option Halt} (h : Course b s c ts o c') :
    ∃ extra, (o = none → extra = []) ∧ Grown extra c c' := by
  have same (c : Core V W) (o : Option Halt) :
      ∃ extra, (o = none → extra = []) ∧ Grown extra c c := ⟨[], fun _ => rfl, .refl c⟩
  have asked (c : Core V W) (o : Option Halt) {α : Type} (x : Ask W α) :
      ∃ extra, (o = none → extra = []) ∧ Grown extra c (coreOf (ask x c)) := by
    rw [coreOf_ask]
    exact ⟨[], fun _ => rfl, .inWorld c _⟩
  induction h with
  | rest => exact same _ _
  | next _ _ ih ih' =>
    -- what was followed by something did not halt, so it left nothing on the stack
    obtain ⟨extra, hextra, hg⟩ := ih
    obtain rfl := hextra rfl
    obtain ⟨extra', hextra', hg'⟩ := ih'
    exact ⟨extra', hextra', hg.trans hg'⟩
  | cut => exact same _ _
  | note line _ => exact ⟨[], fun _ => rfl, .noted _ line⟩
  | visit _ => exact ⟨[], fun _ => rfl, .of_frame rfl (.refl _) rfl rfl⟩
  | make text => exact ⟨[], fun _ => rfl, .inWorld _ _⟩
  | assign name v => exact ⟨[], fun _ => rfl, .assigned _ name v⟩
  | define _ _ _ => exact ⟨[], fun _ => rfl, .defined _ _ _⟩
  | conflict _ _ _ => exact same _ _
  | truthy v _ _ _ => exact asked _ _ _
  | call _ _ _ _ ih =>
    obtain ⟨extra, hextra, hg⟩ := ih
    exact ⟨extra, fun ho => hextra (Option.map_eq_none_iff.mp ho), hg⟩
  | unresolved _ _ _ => exact same _ _
  | tooDeep _ _ _ => exact same _ _
  | arity _ _ _ _ =>
    -- the number of arguments is looked at only after the frame was pushed
    obtain ⟨f, hf⟩ := (Grown.refl (entered _ _ _)).of_entered
    exact ⟨_, (nomatch ·), hf⟩
  | inside _ _ _ _ ih =>
    obtain ⟨extra, -, hg⟩ := ih
    obtain ⟨f, hf⟩ := ((Grown.bound _ _ _).trans hg).of_entered
    exact ⟨_, (nomatch ·), hf⟩
  | through _ _ _ _ ih =>
    obtain ⟨extra, hextra, hg⟩ := ih
    obtain rfl := hextra rfl
    exact ⟨[], fun _ => rfl, ((Grown.bound _ _ _).trans hg).left⟩
  | has target _ _ => exact asked _ _ _
  | invoke _ _ _ => exact asked _ _ _

/-- What did not halt has left the chain of calls as it was. -/
theorem Course.calls_eq {b : Bridge V W} {s : Subject V} {c c' : Core V W} {ts : List (Turn V W)}
    (h : Course b s c ts none c') : c'.calls = c.calls := by
  obtain ⟨extra, hextra, hg⟩ := h.grown
  obtain rfl := hextra rfl
  exact hg.calls_eq_of_nil

/-! ### Frames and calls in step -/

namespace Core

/-- **Frames and calls are in step**: there is one call for each frame above the one at the bottom,
in the same order and with the same name, and the stack is not empty and within its limit. -/
structure WellStacked (c : Core V W) : Prop where
  calls_length : c.calls.length = c.depth - 1
  calls_names : c.calls.map CallEntry.name = (c.stack.map Frame.name).dropLast
  toplevel_name : c.toplevel.name = toplevelName
  depth_pos : 1 ≤ c.depth
  depth_le : (c.depth : Int) ≤ max 1 c.maxDepth

theorem toplevel_of_nil {c : Core V W} (h : c.below = []) : c.toplevel = c.frame := by
  rw [toplevel, h, List.getLastD_nil]

theorem toplevel_of_cons {c : Core V W} {f : Frame V} {rest : List (Frame V)}
    (h : c.below = f :: rest) : c.toplevel = rest.getLastD f := by
  rw [toplevel, h, List.getLastD_cons]

namespace WellStacked

variable {c c' : Core V W}

theorem fresh (maxDepth : Int) (tracing : Tracing) (w : W) :
    (Core.fresh maxDepth tracing w : Core V W).WellStacked :=
  ⟨rfl, rfl, rfl, by simp [depth], Int.le_max_left 1 maxDepth⟩

/-- Only the names of the frames matter. -/
theorem of_eq (hc : c.WellStacked) (hmax : c'.maxDepth = c.maxDepth)
    (hname : c'.frame.name = c.frame.name) (hbelow : c'.below = c.below)
    (hcalls : c'.calls = c.calls) : c'.WellStacked where
  calls_length := by simpa [depth, hcalls, hbelow] using hc.calls_length
  calls_names := by simpa [stack, hcalls, hbelow, hname] using hc.calls_names
  toplevel_name := by
    have h := hc.toplevel_name
    cases hb : c.below with
    | nil => rwa [toplevel_of_nil (hbelow.trans hb), hname, ← toplevel_of_nil hb]
    | cons f rest => rwa [toplevel_of_cons (hbelow.trans hb), ← toplevel_of_cons hb]
  depth_pos := by simp [depth]
  depth_le := by simpa [depth, hbelow, hmax] using hc.depth_le

theorem of_grown (hc : c.WellStacked) (h : Grown [] c c') : c'.WellStacked :=
  hc.of_eq h.maxDepth_eq h.frame_extends.name_eq h.below_eq h.calls_eq_of_nil

/-- A frame that is pushed where there is room stays within the limit. -/
theorem entered (hc : c.WellStacked) (name : String) (site : Option Place)
    (hroom : ¬ c.maxDepth ≤ c.depth) : (c.entered name site).WellStacked where
  calls_length := by simpa [depth] using hc.calls_length
  calls_names := by simpa [stack] using hc.calls_names
  toplevel_name := by
    rw [toplevel_of_cons (c.entered_below name site)]
    exact hc.toplevel_name
  depth_pos := by simp [depth]
  depth_le := by
    simp only [depth, entered_below, List.length_cons, entered_maxDepth] at hroom ⊢
    omega

theorem left (hc : c.WellStacked) : c.left.WellStacked := by
  cases hb : c.below with
  | nil =>
    have hleft : c.left = c := by simp [Core.left, hb]
    exact hleft.symm ▸ hc
  | cons f rest =>
    obtain ⟨hframe, hbelow, hcalls⟩ := left_of_below hb
    have hlen := hc.calls_length
    have hnames := hc.calls_names
    have hle := hc.depth_le
    simp only [depth, stack, hb, List.length_cons, List.map_cons] at hlen hnames hle
    refine ⟨?_, ?_, ?_, by simp [depth], ?_⟩
    · simp [depth, hbelow, hcalls, hlen]
    · rw [hcalls, List.map_tail, hnames]
      simp [stack, hframe, hbelow]
    · have h := hc.toplevel_name
      rw [toplevel_of_cons hb] at h
      rwa [toplevel, hbelow, hframe]
    · simp only [depth, hbelow, left_maxDepth]
      omega

end WellStacked

end Core

/-- **Along a course** frames and calls stay in step, at every turn and at the end. -/
theorem Course.wellStacked {b : Bridge V W} {s : Subject V} {c c' : Core V W}
    {ts : List (Turn V W)} {o : Option Halt} (h : Course b s c ts o c') (hc : c.WellStacked) :
    (∀ t ∈ ts, t.core.WellStacked) ∧ c'.WellStacked := by
  induction h with
  | rest | cut => exact ⟨by simp, hc⟩
  | next _ _ ih ih' =>
    obtain ⟨hts, hc'⟩ := ih hc
    obtain ⟨hts', hc''⟩ := ih' hc'
    exact ⟨by simpa [or_imp, forall_and] using ⟨hts, hts'⟩, hc''⟩
  | note line _ => exact ⟨by simp, hc.of_grown (.noted _ line)⟩
  | visit _ => exact ⟨by simp, hc.of_eq rfl rfl rfl rfl⟩
  | make text => exact ⟨by simp, hc.of_grown (.inWorld _ _)⟩
  | assign name v => exact ⟨by simpa using hc, hc.of_grown (.assigned _ name v)⟩
  | define _ _ _ => exact ⟨by simpa using hc, hc.of_grown (.defined _ _ _)⟩
  | conflict _ _ _ => exact ⟨by simpa using hc, hc⟩
  | truthy v _ _ _ =>
    rw [coreOf_ask]
    exact ⟨by simpa using hc, hc.of_grown (.inWorld _ _)⟩
  | call _ _ _ _ ih => exact ih hc
  | unresolved _ _ _ => exact ⟨by simp, hc⟩
  | tooDeep _ _ _ => exact ⟨by simpa using hc, hc⟩
  | arity _ _ hroom _ => exact ⟨by simpa using hc, hc.entered _ _ hroom⟩
  | inside _ hroom _ _ ih =>
    obtain ⟨hts, hc'⟩ := ih ((hc.entered _ _ hroom).of_grown (.bound _ _ _))
    exact ⟨by simpa using ⟨hc, hts⟩, hc'⟩
  | through _ hroom _ _ ih =>
    -- the frame is popped from the core that the body left, so this one is needed as well
    obtain ⟨hts, hc'⟩ := ih ((hc.entered _ _ hroom).of_grown (.bound _ _ _))
    refine ⟨?_, hc'.left⟩
    simpa [or_imp, forall_and] using ⟨hc, hts, hc'⟩
  | has target _ _ =>
    rw [coreOf_ask]
    exact ⟨by simpa using hc, hc.of_grown (.inWorld _ _)⟩
  | @invoke request _ _ c target args _ _ _ =>
    rw [coreOf_ask]
    exact ⟨by simpa using hc, hc.of_grown (.inWorld _ _)⟩

/-! ### Operations on a core -/

/-- What can be done with a core from outside. -/
inductive Action (V : Type) where
  /-- A node is evaluated. -/
  | eval (n : Node)
  /-- A program is evaluated. -/
  | run (p : Program)
  /-- A call is resolved, and is a fault if no tier knows the name. -/
  | call (request : Request V) (site : Option Place)
  /-- A call is resolved through all tiers. -/
  | resolve (request : Request V) (site : Option Place)
  /-- A call is resolved through the first tier. -/
  | callFunction (request : Request V) (site : Option Place)
  /-- A call is resolved through the second tier. -/
  | callEnvironment (request : Request V)
  /-- A call is resolved through the third tier. -/
  | callReceiver (request : Request V)
  /-- A function is defined. -/
  | define (name : String) (f : Function) (site : Place)
  /-- A variable is bound in the active frame. -/
  | assign (name : String) (value : V)

namespace Action

/-- Carries out an action; a tier may give no value. -/
def perform (b : Bridge V W) (fuel : Nat) : Action V → Eval V W (Option V)
  | .eval n => do return some (← Treewalk.eval b fuel n)
  | .run p => do return some (← p.eval b fuel)
  | .call request site => do
    return some (← Core.call b (Treewalk.eval b fuel) request.name request.args site)
  | .resolve request site =>
    Core.resolve b (Treewalk.eval b fuel) request.name request.args site
  | .callFunction request site =>
    Core.callFunction b (Treewalk.eval b fuel) request.name request.args site
  | .callEnvironment request => Core.callEnvironment b request.name request.args
  | .callReceiver request => Core.callReceiver b request.name request.args
  | .define name f site => do
    Core.define name f site
    return none
  | .assign name value => do
    Core.assign name value
    return none

/-- The turns of an action. -/
def turns (b : Bridge V W) (fuel : Nat) : Action V → Core V W → List (Turn V W)
  | .eval n, c => Treewalk.turns b fuel n c
  | .run p, c => p.turns b fuel c
  | .call request site, c | .resolve request site, c =>
    resolveTurns b (Treewalk.eval b fuel) (Treewalk.turns b fuel) request site c
  | .callFunction request site, c =>
    functionTurns b (Treewalk.eval b fuel) (Treewalk.turns b fuel) request site c
  | .callEnvironment request, c => environmentTurns b request c
  | .callReceiver request, c => receiverTurns b request c
  | .define name _ _, c => [⟨c, .define name⟩]
  | .assign name value, c => [⟨c, .assign name value⟩]

end Action

/-- **What is kept from one core to another**, over the turns in between: the stack is kept, with
frames left on top only after a halt, and frames and calls stay in step. -/
structure Disciplined (c : Core V W) (ts : List (Turn V W)) (o : Option Halt) (c' : Core V W) :
    Prop where
  grown : ∃ extra, (o = none → extra = []) ∧ Grown extra c c'
  wellStacked : c.WellStacked → (∀ t ∈ ts, t.core.WellStacked) ∧ c'.WellStacked

theorem Course.disciplined {b : Bridge V W} {s : Subject V} {c c' : Core V W}
    {ts : List (Turn V W)} {o : Option Halt} (h : Course b s c ts o c') : Disciplined c ts o c' :=
  ⟨h.grown, h.wellStacked⟩

theorem Disciplined.of_grown {c c' : Core V W} {ts : List (Turn V W)} {o : Option Halt}
    (hts : ∀ t ∈ ts, Grown [] c t.core) (h : Grown [] c c') : Disciplined c ts o c' :=
  ⟨⟨[], fun _ => rfl, h⟩, fun hc => ⟨fun t ht => hc.of_grown (hts t ht), hc.of_grown h⟩⟩

/-- The second and the third tier, taken alone, leave the stack as it is. -/
theorem offer_disciplined {b : Bridge V W} {line : W → TraceLine} {request : Request V} {target : V}
    {args : List V} (c : Core V W) :
    Disciplined c (offerTurns b line request target args c)
      (haltOf (offer b line target request.name args c))
      (coreOf (offer b line target request.name args c)) := by
  have hworld (w : W) : Grown [] c (c.inWorld w) := .inWorld c w
  cases hb : b.has target request.name c.world with
  | error fault w =>
    rw [offer_of_error hb]
    refine .of_grown ?_ (hworld w)
    simpa [offerTurns, ask_of_error hb] using Grown.refl c
  | ok known w =>
    cases known with
    | false =>
      rw [offer_of_not hb]
      refine .of_grown ?_ (hworld w)
      simpa [offerTurns, ask_of_ok hb] using Grown.refl c
    | true =>
      rw [offer_of_has hb]
      have hnoted := (hworld w).trans (.noted _ (line w))
      refine .of_grown ?_ ?_
      · simpa [offerTurns, ask_of_ok hb] using ⟨Grown.refl c, hnoted⟩
      · have hafter := coreOf_ask (b.invoke c.activation target request.name args)
          ((c.inWorld w).noted (line w))
        cases hi : ask (b.invoke c.activation target request.name args)
            ((c.inWorld w).noted (line w)) with
        | ok v c₂ =>
          rw [bind_of_ok hi]
          rw [hi] at hafter
          exact hnoted.trans (hafter ▸ .inWorld _ _)
        | error e c₂ =>
          rw [bind_of_error hi]
          rw [hi] at hafter
          exact hnoted.trans (hafter ▸ .inWorld _ _)

/-- **Every operation keeps the discipline.** -/
theorem Action.disciplined (b : Bridge V W) (fuel : Nat) (a : Action V) (c : Core V W) :
    Disciplined c (a.turns b fuel c) (haltOf (a.perform b fuel c))
      (coreOf (a.perform b fuel c)) := by
  have heval := eval_follows b fuel
  cases a with
  | eval n => exact (heval [n] n c (.top (by simp))).bindPure.disciplined
  | run p => exact (p.eval_follows b fuel c).bindPure.disciplined
  | call request site => exact (call_follows heval).bindPure.disciplined
  | resolve request site => exact (resolve_follows heval).disciplined
  | callFunction request site => exact (callFunction_follows heval).disciplined
  | callEnvironment request =>
    simp only [turns, perform, environmentTurns, callEnvironment_eq_offer]
    exact offer_disciplined c
  | callReceiver request =>
    obtain ⟨name, args⟩ := request
    cases args with
    | nil => exact .of_grown (by simp [turns, receiverTurns]) (.refl c)
    | cons target rest =>
      simp only [turns, perform, receiverTurns, callReceiver_eq_offer]
      exact offer_disciplined c
  | define name f site =>
    simp only [turns, perform]
    cases hf : c.functions.lookup name with
    | none =>
      rw [bind_of_ok (define_of_new hf)]
      exact .of_grown (by simpa using .refl c) (.defined c name f)
    | some g =>
      rw [bind_of_error (define_of_known (by simp [hf]))]
      exact .of_grown (by simpa using .refl c) (.refl c)
  | assign name value =>
    exact .of_grown (by simpa [turns] using .refl c) (.assigned c name value)

namespace Core

/-- **The cores that operations lead to** from a fresh one. An operation counts also when it fails,
and between two of them the surroundings may change by themselves. -/
inductive Reachable (b : Bridge V W) : Core V W → Prop
  /-- The core at the start of a run. -/
  | fresh (maxDepth : Int) (tracing : Tracing) (w : W) : Reachable b (Core.fresh maxDepth tracing w)
  /-- The core that an operation leaves behind. -/
  | act {c : Core V W} (a : Action V) (fuel : Nat) : Reachable b c →
      Reachable b (coreOf (a.perform b fuel c))
  /-- The core in surroundings that have changed. -/
  | outside {c : Core V W} (w : W) : Reachable b c → Reachable b (c.inWorld w)

/-- In every core that operations lead to, frames and calls are in step. -/
theorem Reachable.wellStacked {b : Bridge V W} {c : Core V W} (h : Reachable b c) :
    c.WellStacked := by
  induction h with
  | fresh maxDepth tracing w => exact .fresh maxDepth tracing w
  | act a fuel _ ih => exact ((a.disciplined b fuel _).wellStacked ih).2
  | outside w _ ih => exact ih.of_grown (.inWorld _ w)

/-- **The discipline of the stack.** From a core that operations lead to, whatever operation is
carried out: if it returns, the frames below the active one and the calls are as they were, and the
active frame has only gained variables; if it halts, the old stack stands below the frames that were
left, and the calls have grown by one for each of these; and at every turn and at the end frames and
calls are in step. -/
theorem stack_discipline {b : Bridge V W} {c : Core V W} (hc : Reachable b c) (a : Action V)
    (fuel : Nat) :
    c.WellStacked ∧ (∀ t ∈ a.turns b fuel c, t.core.WellStacked) ∧
      match a.perform b fuel c with
      | .ok _ c' =>
        c'.WellStacked ∧ c'.depth = c.depth ∧ c'.below = c.below ∧ c.frame.Extends c'.frame ∧
          c'.calls = c.calls
      | .error _ c' =>
        c'.WellStacked ∧ ∃ extra f entries, c'.stack = extra ++ f :: c.below ∧ c.frame.Extends f ∧
          c'.calls = entries ++ c.calls ∧ entries.map CallEntry.name = extra.map Frame.name := by
  have hstacked := hc.wellStacked
  have h := a.disciplined b fuel c
  obtain ⟨hturns, hc'⟩ := h.wellStacked hstacked
  obtain ⟨extra, hextra, hg⟩ := h.grown
  refine ⟨hstacked, hturns, ?_⟩
  cases hr : a.perform b fuel c with
  | ok v c' =>
    rw [hr] at hc' hextra hg
    obtain rfl := hextra rfl
    have hbelow : c'.below = c.below := hg.below_eq
    exact ⟨hc', by rw [depth, depth, hbelow], hbelow, hg.frame_extends, hg.calls_eq_of_nil⟩
  | error e c' =>
    rw [hr] at hc' hg
    obtain ⟨f, hf, hs⟩ := hg.stack_eq
    obtain ⟨entries, hcalls, hnames⟩ := hg.calls_eq
    exact ⟨hc', extra, f, entries, hs, hf, hcalls, hnames⟩

/-- A function that calls one nobody knows, and a call of it. -/
def strayProgram : Program :=
  ⟨"stray", [
    .define ⟨.str "stray", .int 1⟩ "f" [] [.call ⟨.str "stray", .int 2⟩ "unknown" []],
    .call ⟨.str "stray", .int 3⟩ "f" []]⟩

/-- The core that the failed call leaves behind, with the frame of the function still on it. -/
def strayCore : Core Value World :=
  coreOf ((Action.run strayProgram).perform Bridges.reflective 5
    (Core.fresh 64 .off (World.start .standard "")))

theorem stack_discipline_of_strayCore :
    strayCore.depth = 2 ∧ strayCore.WellStacked ∧
      ∀ t ∈ (Action.call ⟨"f", []⟩ none).turns Bridges.reflective 5 strayCore,
        t.core.WellStacked := by
  have hreach : Reachable Bridges.reflective strayCore := .act _ 5 (.fresh 64 .off _)
  have h := stack_discipline hreach (.call ⟨"f", []⟩ none) 5
  exact ⟨by decide +kernel, h.1, h.2.1⟩

end Core

end Treewalk
