import Treewalk.Proofs.Arrangement
import Treewalk.Proofs.Wording

/-!
# The evaluation of a variant

A variant of a program (`Treewalk.Variant`) is evaluated like the program itself. The two run side
by side: what differs is how the variables in the frames are called, and how the bodies of functions
are worded (`Treewalk.Core.Reworded`). Every frame has names of its own. While a function runs, the
two frames on top are related by the renaming of that function, and the frames below by renamings
that nobody looks at; so when the function returns, the frame that comes up is related to its
counterpart as it was before, because it is the same frame (`Treewalk.runBody_below`).

A name that is bare in the second program and called in the first is never bound. So it is looked up
in vain among the variables, and the rest is the call. There is one thing that can be seen: if
nobody knows the name, the faults do not say the same. Where the two faults may differ is stated
exactly (`Treewalk.Halts`): the last question was for that name, and the answer was no.

* **`Treewalk.Rewords.eval`** and **`Treewalk.Rewords.program`**: the evaluation of a variant.
* **`Treewalk.Runner.variants_run`**: what is seen of its run.
-/

namespace Treewalk

open Treewalk.Core

variable {V W α β : Type} {K : Wording}

/-! ### Frames with other names -/

/-- **A frame with other names**: the variables are the same, in the same order, and all may be
bound. -/
structure Frame.Renamed (K : Wording) (ρ : String → String) (f g : Frame V) : Prop where
  name_eq : g.name = f.name
  vars_eq : g.vars = f.vars.map fun b => (ρ b.1, b.2)
  bindable : ∀ name ∈ f.names, K.Bindable name

namespace Frame

variable {ρ : String → String}

theorem bind_renamed (hρ : Set.InjOn ρ K.spareᶜ) {name : String} (hname : name ∉ K.spare) (v : V) :
    ∀ vars : List (String × V), (∀ b ∈ vars, b.1 ∉ K.spare) →
      bind (ρ name) v (vars.map fun b => (ρ b.1, b.2)) =
        (bind name v vars).map fun b => (ρ b.1, b.2)
  | [], _ => rfl
  | (n, x) :: rest, hvars => by
    have hn : n ∉ K.spare := hvars (n, x) (by simp)
    have ih := bind_renamed hρ hname v rest fun b hb => hvars b (by simp [hb])
    simp only [List.map_cons, bind]
    by_cases h : n = name
    · rw [if_pos h, if_pos (congrArg ρ h), List.map_cons]
    · rw [if_neg h, if_neg fun heq => h (hρ hn hname heq), List.map_cons, ih]

theorem lookup_renamed (hρ : Set.InjOn ρ K.spareᶜ) {name : String} (hname : name ∉ K.spare) :
    ∀ vars : List (String × V), (∀ b ∈ vars, b.1 ∉ K.spare) →
      (vars.map fun b => (ρ b.1, b.2)).lookup (ρ name) = vars.lookup name
  | [], _ => rfl
  | (n, x) :: rest, hvars => by
    have hn : n ∉ K.spare := hvars (n, x) (by simp)
    have ih := lookup_renamed hρ hname rest fun b hb => hvars b (by simp [hb])
    rw [List.map_cons, List.lookup_cons, List.lookup_cons, ih]
    by_cases h : name = n
    · simp [h]
    · rw [beq_false_of_ne h, beq_false_of_ne fun heq => h (hρ hname hn heq)]

/-- A variable that is bound is among the names. -/
theorem mem_names_of_get? {f : Frame V} {name : String} {v : V} (h : f.get? name = some v) :
    name ∈ f.names :=
  List.mem_map.mpr ⟨_, mem_of_lookup_eq_some h, rfl⟩

theorem get?_ne_none_of_mem {f : Frame V} {name : String} (h : name ∈ f.names) :
    f.get? name ≠ none := by
  obtain ⟨b, hb, rfl⟩ := List.mem_map.mp h
  intro hnone
  have hdiffers := List.lookup_eq_none_iff.mp hnone b hb
  simp at hdiffers

theorem names_set_subset {f : Frame V} {name : String} {v : V} :
    ∀ n ∈ (f.set name v).names, n = name ∨ n ∈ f.names := by
  simp only [names, set]
  induction f.vars with
  | nil => simp [bind]
  | cons b rest ih =>
    simp only [bind]
    split
    · next h => simp [h]
    · intro n hn
      rcases List.mem_cons.mp hn with rfl | hn
      · simp
      · rcases ih n hn with h | h <;> simp [h]

theorem mem_names_set (f : Frame V) (name : String) (v : V) : name ∈ (f.set name v).names := by
  simp only [names, set]
  induction f.vars with
  | nil => simp [bind]
  | cons b rest ih =>
    simp only [bind]
    split
    · next h => simp [h]
    · exact List.mem_cons_of_mem _ ih

/-- Names that are bound stay bound. -/
theorem Extends.names_subset {f g : Frame V} (h : f.Extends g) : f.names ⊆ g.names :=
  h.names_prefix.subset

/-- All parameters are bound. -/
theorem subset_names_setAll {params : List String} {args : List V}
    (h : args.length = params.length) (f : Frame V) : params ⊆ (f.setAll params args).names := by
  induction params generalizing f args with
  | nil => simp
  | cons p rest ih =>
    cases args with
    | nil => simp at h
    | cons v args =>
      intro n hn
      rcases List.mem_cons.mp hn with rfl | hn
      · exact (Extends.setAll (f.set n v) rest args).names_subset (mem_names_set f n v)
      · exact ih (by simpa using h) _ hn

namespace Renamed

variable {f g : Frame V} {name : String}

theorem not_spare (h : Renamed K ρ f g) : ∀ b ∈ f.vars, b.1 ∉ K.spare :=
  fun b hb => (h.bindable b.1 (List.mem_map_of_mem hb)).1

/-- An empty frame is one with other names. -/
theorem empty (name : String) : Renamed K ρ (⟨name, []⟩ : Frame V) ⟨name, []⟩ :=
  ⟨rfl, rfl, by simp [names]⟩

theorem get?_eq (h : Renamed K ρ f g) (hρ : Set.InjOn ρ K.spareᶜ) (hname : name ∉ K.spare) :
    g.get? (ρ name) = f.get? name := by
  rw [get?, get?, h.vars_eq]
  exact lookup_renamed hρ hname _ h.not_spare

/-- A name that is not bound is not changed. -/
theorem eq_of_get?_eq_none (hρ : Renaming K f.names ρ) (hnone : f.get? name = none) :
    ρ name = name := by
  by_contra hmoved
  exact get?_ne_none_of_mem (hρ.moved hmoved) hnone

/-- A bare name is not bound on either side. -/
theorem get?_eq_none_of_bare (h : Renamed K ρ f g) (hρ : Renaming K f.names ρ)
    (hbare : name ∈ K.bare) : g.get? name = none := by
  have hspare : name ∉ K.spare := K.not_spare name hbare
  have hget := h.get?_eq hρ.injOn hspare
  rw [hρ.eq_of_bare h.bindable hbare] at hget
  rw [hget]
  cases hf : f.get? name with
  | none => rfl
  | some v => exact absurd hbare (h.bindable name (mem_names_of_get? hf)).2

theorem set (h : Renamed K ρ f g) (hρ : Set.InjOn ρ K.spareᶜ) (hname : K.Bindable name) (v : V) :
    Renamed K ρ (f.set name v) (g.set (ρ name) v) where
  name_eq := h.name_eq
  vars_eq := by
    simp only [Frame.set, h.vars_eq]
    exact bind_renamed hρ hname.1 v _ h.not_spare
  bindable n hn := by
    rcases names_set_subset n hn with rfl | hn
    · exact hname
    · exact h.bindable n hn

theorem setAll (h : Renamed K ρ f g) (hρ : Set.InjOn ρ K.spareᶜ) {params : List String}
    (hparams : ∀ p ∈ params, K.Bindable p) (args : List V) :
    Renamed K ρ (f.setAll params args) (g.setAll (params.map ρ) args) := by
  induction params generalizing f g args with
  | nil => exact h
  | cons p rest ih =>
    cases args with
    | nil => exact h
    | cons v args =>
      exact ih (h.set hρ (hparams p (by simp)) v) (fun q hq => hparams q (by simp [hq])) args

end Renamed

end Frame

/-! ### Cores with another wording -/

/-- **A function with another wording**: its parameters and its body are renamed together. -/
def Function.Reworded (K : Wording) (f g : Function) : Prop :=
  ∃ σ : String → String, Renaming K f.params σ ∧ (∀ p ∈ f.params, K.Bindable p) ∧
    g.params = f.params.map σ ∧ Variants K σ f.body g.body

/-- **A core with another wording**: the active frame has other names, and the functions are
worded otherwise. Of the frames below it is only said how many there are. -/
structure Core.Reworded (K : Wording) (ρ : String → String) (c d : Core V W) : Prop where
  maxDepth_eq : d.maxDepth = c.maxDepth
  functions (name : String) :
    Option.Rel (Function.Reworded K) (c.functions.lookup name) (d.functions.lookup name)
  frame : c.frame.Renamed K ρ d.frame
  names : Renaming K c.frame.names ρ
  length_eq : d.below.length = c.below.length
  calls_eq : d.calls = c.calls
  place_eq : d.current.map Node.place = c.current.map Node.place
  world_eq : d.world = c.world

namespace Core.Reworded

variable {ρ σ : String → String} {c d c' d' : Core V W}

theorem depth_eq (h : Reworded K ρ c d) : d.depth = c.depth := by
  rw [depth, depth, h.length_eq]

theorem activation_eq (h : Reworded K ρ c d) : d.activation = c.activation := by
  rw [activation, activation, h.frame.name_eq, h.depth_eq]

theorem full_iff (h : Reworded K ρ c d) :
    d.maxDepth ≤ (d.depth : Int) ↔ c.maxDepth ≤ (c.depth : Int) := by
  rw [h.maxDepth_eq, h.depth_eq]

theorem fresh (maxDepth : Int) (tracing : Tracing) (w : W) :
    Reworded K id (Core.fresh (V := V) maxDepth tracing w) (Core.fresh maxDepth tracing w) :=
  ⟨rfl, fun _ => .none, .empty _, .same K _, rfl, rfl, rfl, rfl⟩

theorem noted (h : Reworded K ρ c d) (line line' : TraceLine) :
    Reworded K ρ (c.noted line) (d.noted line') where
  maxDepth_eq := by simpa using h.maxDepth_eq
  functions := by simpa using h.functions
  frame := by simpa using h.frame
  names := by simpa using h.names
  length_eq := by simpa using h.length_eq
  calls_eq := by simpa using h.calls_eq
  place_eq := by simpa using h.place_eq
  world_eq := by simpa using h.world_eq

theorem inWorld (h : Reworded K ρ c d) (w : W) : Reworded K ρ (c.inWorld w) (d.inWorld w) :=
  { h with world_eq := rfl }

theorem visited (h : Reworded K ρ c d) {n n' : Node} (hplace : n'.place = n.place) :
    Reworded K ρ (c.visited n) (d.visited n') :=
  { h with place_eq := congrArg some hplace }

theorem assigned (h : Reworded K ρ c d) {name : String} (hname : K.Bindable name) (v : V) :
    Reworded K ρ (c.assigned name v) (d.assigned (ρ name) v) :=
  { h with
    frame := h.frame.set h.names.injOn hname v
    names := h.names.mono (Frame.Extends.set c.frame name v).names_subset }

theorem defined (h : Reworded K ρ c d) {f g : Function} (hfg : Function.Reworded K f g)
    (name : String) : Reworded K ρ (c.defined name f) (d.defined name g) where
  maxDepth_eq := by simpa using h.maxDepth_eq
  functions other := by
    rw [defined_functions, defined_functions, List.lookup_append, List.lookup_append]
    have hother := h.functions other
    generalize c.functions.lookup other = r at hother
    generalize d.functions.lookup other = r' at hother
    cases hother with
    | some hfg' => exact .some hfg'
    | none =>
      simp only [Option.none_or, List.lookup_cons, List.lookup_nil]
      cases other == name with
      | true => exact .some hfg
      | false => exact .none
  frame := by simpa using h.frame
  names := by simpa using h.names
  length_eq := by simpa using h.length_eq
  calls_eq := by simpa using h.calls_eq
  place_eq := by simpa using h.place_eq
  world_eq := by simpa using h.world_eq

/-- A new frame has no names yet. -/
theorem entered (h : Reworded K ρ c d) (name : String) (site : Option Place) :
    Reworded K id (c.entered name site) (d.entered name site) where
  maxDepth_eq := by simpa using h.maxDepth_eq
  functions := by simpa using h.functions
  frame := by simpa using Frame.Renamed.empty name
  names := .same K _
  length_eq := by simpa using h.length_eq
  calls_eq := by simp [h.calls_eq]
  place_eq := by simpa using h.place_eq
  world_eq := by simpa using h.world_eq

/-- **The frame of a function takes on the names of the function.** -/
theorem bound (h : Reworded K ρ c d) (name : String) (site : Option Place) {params : List String}
    {args : List V} (hσ : Renaming K params σ) (hparams : ∀ p ∈ params, K.Bindable p)
    (hargs : args.length = params.length) :
    Reworded K σ ((c.entered name site).bound params args)
      ((d.entered name site).bound (params.map σ) args) :=
  { h.entered name site with
    frame := by
      simpa using (Frame.Renamed.empty name).setAll hσ.injOn hparams args
    names := hσ.mono (Frame.subset_names_setAll hargs _) }

/-- **What comes up when a function returns** is related as it was before the call. -/
theorem left (h : Reworded K ρ c d) (h' : Reworded K σ c' d') (hc : c'.below = c.frame :: c.below)
    (hd : d'.below = d.frame :: d.below) : Reworded K ρ c'.left d'.left := by
  obtain ⟨hframe, hbelow, hcalls⟩ := left_of_below hc
  obtain ⟨hframe', hbelow', hcalls'⟩ := left_of_below hd
  refine ⟨by simpa using h'.maxDepth_eq, by simpa using h'.functions, ?_, ?_, ?_, ?_,
    by simpa using h'.place_eq, by simpa using h'.world_eq⟩
  · rw [hframe, hframe']
    exact h.frame
  · rw [hframe]
    exact h.names
  · rw [hbelow, hbelow', h.length_eq]
  · rw [hcalls, hcalls', h'.calls_eq]

end Core.Reworded

/-! ### Questions in vain -/

/-- **A name is asked for in vain**: the call of it has no arguments, and the environment does not
have it. -/
def Turn.InVain (b : Bridge V W) (name : String) (t : Turn V W) : Prop :=
  t.move = .has ⟨name, []⟩ b.environment ∧ ∃ w, b.has b.environment name t.core.world = .ok false w

/-- **The last of some turns asks for a name in vain.** -/
def LastInVain (b : Bridge V W) (name : String) (ts : List (Turn V W)) : Prop :=
  ∃ t, ts.getLast? = some t ∧ t.InVain b name

/-- **The last of some turns does something else.** -/
def LastOtherwise (b : Bridge V W) (name : String) (ts : List (Turn V W)) : Prop :=
  ∃ t, ts.getLast? = some t ∧ ¬ t.InVain b name

section Last

variable {b : Bridge V W} {name : String} {ts : List (Turn V W)}

theorem getLast?_append_of_eq_some {t : Turn V W} (before : List (Turn V W))
    (h : ts.getLast? = some t) : (before ++ ts).getLast? = some t := by
  rw [List.getLast?_append, h, Option.some_or]

theorem LastInVain.append (before : List (Turn V W)) (h : LastInVain b name ts) :
    LastInVain b name (before ++ ts) :=
  h.imp fun _ ht => ⟨getLast?_append_of_eq_some before ht.1, ht.2⟩

theorem LastOtherwise.append (before : List (Turn V W)) (h : LastOtherwise b name ts) :
    LastOtherwise b name (before ++ ts) :=
  h.imp fun _ ht => ⟨getLast?_append_of_eq_some before ht.1, ht.2⟩

theorem LastOtherwise.not_lastInVain (h : LastOtherwise b name ts) : ¬ LastInVain b name ts := by
  obtain ⟨t, hlast, ht⟩ := h
  rintro ⟨t', hlast', ht'⟩
  obtain rfl : t' = t := Option.some.inj (hlast'.symm.trans hlast)
  exact ht ht'

/-- **A call without arguments that nobody takes** has asked the environment last. -/
theorem lastInVain_of_resolve_eq_none {eval : Node → Eval V W V}
    {seen : Node → Core V W → List (Turn V W)} {site : Option Place} {c c' : Core V W}
    (h : resolve b eval name [] site c = .ok none c') :
    LastInVain b name (resolveTurns b eval seen ⟨name, []⟩ site c) := by
  obtain ⟨r, c₁, h₁, htiers⟩ := bind_eq_ok h
  cases r with
  | some v => cases htiers
  | none =>
    obtain ⟨hf, rfl⟩ : c.functions.lookup name = none ∧ c₁ = c :=
      @callFunction_eq_none V W b eval ⟨name, []⟩ site c c₁ h₁
    obtain ⟨r, c₂, h₂, hlast⟩ := bind_eq_ok htiers
    cases r with
    | some v => cases hlast
    | none =>
      have hoffer := h₂
      rw [callEnvironment_eq_offer] at hoffer
      obtain ⟨w, hw, rfl⟩ := offer_eq_none hoffer
      have hturns : resolveTurns b eval seen ⟨name, []⟩ site c₁ =
          [⟨c₁, .has ⟨name, []⟩ b.environment⟩] := by
        simp only [resolveTurns, functionTurns, hf, h₁, after_ok, environmentTurns, offerTurns,
          ask_of_ok hw, h₂, receiverTurns]
        rfl
      rw [hturns]
      exact ⟨_, rfl, rfl, w, hw⟩

end Last

/-! ### Results of evaluations side by side -/

/-- **One evaluation is at a call without arguments, the other at the bare name** that it is written
as. -/
def Core.AtBare (name : String) (place : Place) (c d : Core V W) : Prop :=
  c.current = some (.call place name []) ∧ d.current = some (.var place name)

/-- **How two evaluations halt.** They halt alike, except where a call that is written as a bare
name has been asked for in vain. -/
inductive Halts (K : Wording) (b : Bridge V W) (ts : List (Turn V W)) (c d : Core V W) :
    Halt → Halt → Prop
  /-- They halt alike. If they are at a call that is written as a bare name, the last turn was not
  to ask for the name in vain. -/
  | same {h : Halt} : (∀ f, h = .fault f → ∀ name place, AtBare name place c d →
      LastOtherwise b name ts) → Halts K b ts c d h h
  /-- They say of the same name, at the same place, that it is not known. -/
  | refused {name : String} {place : Place} : name ∈ K.bare → AtBare name place c d →
      LastInVain b name ts → Halts K b ts c d (.fault (.raise (.unresolved name .call) place))
        (.fault (.raise (.unresolved name .bare) place))

/-- **How two evaluations end**: with the same value, or halting; and the cores that they leave
behind differ in their wording. -/
inductive Ends (K : Wording) (b : Bridge V W) (ρ : String → String) (ts : List (Turn V W)) :
    EStateM.Result Halt (Core V W) α → EStateM.Result Halt (Core V W) α → Prop
  /-- With a value. -/
  | ok {a : α} {c d : Core V W} : Core.Reworded K ρ c d → Ends K b ρ ts (.ok a c) (.ok a d)
  /-- Halting, in whatever frame. -/
  | error {h h' : Halt} {c d : Core V W} {σ : String → String} : Core.Reworded K σ c d →
      Halts K b ts c d h h' → Ends K b ρ ts (.error h c) (.error h' d)

/-- The same move, where a variable that is bound has another name. -/
def Move.renamed (ρ : String → String) : Move V → Move V
  | .assign name v => .assign (ρ name) v
  | move => move

/-- **The same turn in another wording.** -/
def Turn.Reworded (K : Wording) (t t' : Turn V W) : Prop :=
  ∃ ρ : String → String, t'.move = t.move.renamed ρ ∧ Core.Reworded K ρ t.core t'.core

/-- **One computation does the same as another**: it makes the same turns, in another wording, and
ends alike. -/
structure Rewords (K : Wording) (b : Bridge V W) (ρ : String → String) (ts : List (Turn V W))
    (r : EStateM.Result Halt (Core V W) α) (ts' : List (Turn V W))
    (r' : EStateM.Result Halt (Core V W) α) : Prop where
  aligned : List.Forall₂ (Turn.Reworded K) ts ts'
  ends : Ends K b ρ ts r r'

theorem Halts.append {b : Bridge V W} {ts : List (Turn V W)} {c d : Core V W} {h h' : Halt}
    (before : List (Turn V W)) (hh : Halts K b ts c d h h') :
    Halts K b (before ++ ts) c d h h' := by
  cases hh with
  | same hlast => exact .same fun f hf name place hat => (hlast f hf name place hat).append before
  | refused hname hat hlast => exact .refused hname hat (hlast.append before)

theorem Ends.append {b : Bridge V W} {ρ : String → String} {ts : List (Turn V W)}
    {r r' : EStateM.Result Halt (Core V W) α} (before : List (Turn V W))
    (h : Ends K b ρ ts r r') : Ends K b ρ (before ++ ts) r r' := by
  cases h with
  | ok hc => exact .ok hc
  | error hc hh => exact .error hc (hh.append before)

/-- The surroundings give the same answer to both. A fault comes with a turn of its own. -/
theorem Core.Reworded.ask {b : Bridge V W} {ρ : String → String} {ts : List (Turn V W)}
    {c d : Core V W} (h : Reworded K ρ c d) (x : Ask W α)
    (hlast : ∀ f w, x c.world = .error f w → ∀ name place, AtBare name place c d →
      LastOtherwise b name ts) : Ends K b ρ ts (Core.ask x c) (Core.ask x d) := by
  cases hx : x c.world with
  | ok a w =>
    rw [ask_of_ok hx, ask_of_ok (h.world_eq ▸ hx)]
    exact .ok (h.inWorld w)
  | error f w =>
    rw [ask_of_error hx, ask_of_error (h.world_eq ▸ hx)]
    refine .error (h.inWorld w) (.same fun _ _ name place hat => ?_)
    exact hlast f w hx name place hat

namespace Rewords

variable {b : Bridge V W} {ρ σ : String → String} {ts ts' : List (Turn V W)} {c d : Core V W}
  {x x' : Eval V W α} {y y' : α → Eval V W β}

theorem of_quiet {r r' : EStateM.Result Halt (Core V W) α} (h : Ends K b ρ [] r r') :
    Rewords K b ρ [] r [] r' :=
  ⟨.nil, h⟩

theorem of_move {r r' : EStateM.Result Halt (Core V W) α} {move move' : Move V}
    (hmove : move' = move.renamed ρ) (hc : Core.Reworded K ρ c d)
    (h : Ends K b σ [⟨c, move⟩] r r') : Rewords K b σ [⟨c, move⟩] r [⟨d, move'⟩] r' :=
  ⟨.cons ⟨ρ, hmove, hc⟩ .nil, h⟩

/-- A turn before others. -/
theorem cons {r r' : EStateM.Result Halt (Core V W) α} {move move' : Move V}
    (hmove : move' = move.renamed ρ) (hc : Core.Reworded K ρ c d) (h : Rewords K b σ ts r ts' r') :
    Rewords K b σ (⟨c, move⟩ :: ts) r (⟨d, move'⟩ :: ts') r' :=
  ⟨.cons ⟨ρ, hmove, hc⟩ h.aligned, h.ends.append [⟨c, move⟩]⟩

theorem pure (a : α) (hc : Core.Reworded K ρ c d) : Rewords K b ρ [] (.ok a c) [] (.ok a d) :=
  of_quiet (.ok hc)

/-- **One computation after another**, on both sides. The second may be carried out in another frame
than the first. -/
theorem bind {next next' : α → Core V W → List (Turn V W)}
    (hx : Rewords K b ρ ts (x c) ts' (x' d))
    (hy : ∀ a c₁ d₁, x c = .ok a c₁ → x' d = .ok a d₁ → Core.Reworded K ρ c₁ d₁ →
      Rewords K b σ (next a c₁) (y a c₁) (next' a d₁) (y' a d₁)) :
    Rewords K b σ (ts ++ after (x c) next) ((x >>= y) c) (ts' ++ after (x' d) next')
      ((x' >>= y') d) := by
  obtain ⟨hturns, hends⟩ := hx
  generalize hr : x c = r at hends
  generalize hr' : x' d = r' at hends
  cases hends with
  | @ok a c₁ d₁ hc =>
    obtain ⟨hturns', hends'⟩ := hy a c₁ d₁ hr hr' hc
    rw [bind_of_ok hr, bind_of_ok hr']
    exact ⟨List.rel_append hturns hturns', hends'.append ts⟩
  | error hc hh =>
    rw [bind_of_error hr, bind_of_error hr', after_error, after_error, List.append_nil,
      List.append_nil]
    exact ⟨hturns, .error hc hh⟩

/-- What makes no turns can be put in front, and need not give the same. -/
theorem bindStep {α' : Type} {z : Eval V W α'} {k : α' → Eval V W β} {a : α} {a' : α'}
    {c₁ d₁ : Core V W} (hx : x c = .ok a c₁) (hz : z d = .ok a' d₁)
    (h : Rewords K b ρ ts (y a c₁) ts' (k a' d₁)) :
    Rewords K b ρ ts ((x >>= y) c) ts' ((z >>= k) d) := by
  rw [bind_of_ok hx, bind_of_ok hz]
  exact h

/-- What comes last and makes no turns can be put behind. -/
theorem bindLast (hx : Rewords K b ρ ts (x c) ts' (x' d))
    (hy : ∀ a c₁ d₁, x c = .ok a c₁ → x' d = .ok a d₁ → Core.Reworded K ρ c₁ d₁ →
      Ends K b σ ts (y a c₁) (y' a d₁)) :
    Rewords K b σ ts ((x >>= y) c) ts' ((x' >>= y') d) := by
  obtain ⟨hturns, hends⟩ := hx
  refine ⟨hturns, ?_⟩
  generalize hr : x c = r at hends
  generalize hr' : x' d = r' at hends
  cases hends with
  | @ok a c₁ d₁ hc =>
    rw [bind_of_ok hr, bind_of_ok hr']
    exact hy a c₁ d₁ hr hr' hc
  | error hc hh =>
    rw [bind_of_error hr, bind_of_error hr']
    exact .error hc hh

theorem bindPure {k : α → β} (hx : Rewords K b ρ ts (x c) ts' (x' d)) :
    Rewords K b ρ ts ((x >>= fun a => Pure.pure (k a)) c) ts'
      ((x' >>= fun a => Pure.pure (k a)) d) :=
  hx.bindLast fun _ _ _ _ _ hc => .ok hc

/-- To test a value is no question about a name. -/
theorem ask_truthy (v : V) (hc : Core.Reworded K ρ c d) :
    Rewords K b ρ [⟨c, .truthy v⟩] (ask (b.truthy v) c) [⟨d, .truthy v⟩] (ask (b.truthy v) d) :=
  .of_move rfl hc (hc.ask _ fun _ _ _ _ _ _ => ⟨_, rfl, fun hvain => by cases hvain.1⟩)

/-! ### The evaluator -/

section Calls

variable {fuel : Nat}
  (ih : ∀ (ρ : String → String) (n n' : Node) (c d : Core V W), Variant K ρ n n' →
    Core.Reworded K ρ c d →
    Rewords K b ρ (turns b fuel n c) (Treewalk.eval b fuel n c) (turns b fuel n' d)
      (Treewalk.eval b fuel n' d))
include ih

/-- Statements, one after another. -/
theorem exec (nodes nodes' : List Node) (last : V) (c d : Core V W)
    (h : Variants K ρ nodes nodes') (hc : Core.Reworded K ρ c d) :
    Rewords K b ρ (execTurns (Treewalk.eval b fuel) (turns b fuel) nodes c)
      (Core.exec (Treewalk.eval b fuel) last nodes c)
      (execTurns (Treewalk.eval b fuel) (turns b fuel) nodes' d)
      (Core.exec (Treewalk.eval b fuel) last nodes' d) := by
  induction nodes generalizing nodes' last c d with
  | nil =>
    cases h
    exact .pure last hc
  | cons n rest ihrest =>
    cases h with
    | @cons _ _ n' _ rest' hn hrest =>
      exact (ih ρ n n' c d hn hc).bind fun v c₁ d₁ _ _ hc₁ => ihrest rest' v c₁ d₁ hrest hc₁

/-- Arguments, one after another. -/
theorem evalAll (nodes nodes' : List Node) (c d : Core V W) (h : Variants K ρ nodes nodes')
    (hc : Core.Reworded K ρ c d) :
    Rewords K b ρ (execTurns (Treewalk.eval b fuel) (turns b fuel) nodes c)
      (Core.evalAll (Treewalk.eval b fuel) nodes c)
      (execTurns (Treewalk.eval b fuel) (turns b fuel) nodes' d)
      (Core.evalAll (Treewalk.eval b fuel) nodes' d) := by
  induction nodes generalizing nodes' c d with
  | nil =>
    cases h
    exact .pure [] hc
  | cons n rest ihrest =>
    cases h with
    | @cons _ _ n' _ rest' hn hrest =>
      exact (ih ρ n n' c d hn hc).bind fun _ c₁ d₁ _ _ hc₁ =>
        (ihrest rest' c₁ d₁ hrest hc₁).bindPure

/-- **The first tier.** The function has names of its own; the frame that comes up when it returns
has those that it had before. -/
theorem callFunction (request : Request V) (site : Option Place) (hc : Core.Reworded K ρ c d) :
    Rewords K b ρ (functionTurns b (Treewalk.eval b fuel) (turns b fuel) request site c)
      (Core.callFunction b (Treewalk.eval b fuel) request.name request.args site c)
      (functionTurns b (Treewalk.eval b fuel) (turns b fuel) request site d)
      (Core.callFunction b (Treewalk.eval b fuel) request.name request.args site d) := by
  have hfound := hc.functions request.name
  generalize hf : c.functions.lookup request.name = r at hfound
  generalize hg : d.functions.lookup request.name = r' at hfound
  cases hfound with
  | none =>
    rw [callFunction_of_none hf, callFunction_of_none hg]
    simp only [functionTurns, hf, hg]
    exact .pure none hc
  | @some f g hfg =>
    obtain ⟨σ, hσ, hparams, hparams', hbody⟩ := hfg
    rw [callFunction_of_some hf, callFunction_of_some hg]
    simp only [functionTurns, hf, hg]
    have hnoted := hc.noted (.user request.name request.args.length)
      (.user request.name request.args.length)
    generalize c.noted (.user request.name request.args.length) = c₀ at hnoted ⊢
    generalize d.noted (.user request.name request.args.length) = d₀ at hnoted ⊢
    -- a push is a turn, and no question
    have hpush {ts : List (Turn V W)} (hts : ts = [⟨c₀, .enter request.name⟩]) (name : String) :
        LastOtherwise b name ts := by
      subst hts
      exact ⟨_, rfl, fun hvain => by cases hvain.1⟩
    by_cases hfull : c₀.maxDepth ≤ c₀.depth
    · have hfull' : d₀.maxDepth ≤ d₀.depth := hnoted.full_iff.mpr hfull
      rw [bind_of_error (enter_of_full hfull), bind_of_error (enter_of_full hfull'),
        enter_of_full hfull, enter_of_full hfull', after_error, after_error]
      exact .of_move rfl hnoted (.error hnoted (.same fun _ _ name _ _ => hpush rfl name))
    · have hroom : ¬ d₀.maxDepth ≤ d₀.depth := mt hnoted.full_iff.mp hfull
      have hentered := hnoted.entered request.name site
      rw [bind_of_ok (enter_of_room hfull), bind_of_ok (enter_of_room hroom),
        enter_of_room hfull, enter_of_room hroom, after_ok, after_ok]
      by_cases hargs : request.args.length = f.params.length
      · have hargs' : request.args.length = g.params.length := by
          rw [hargs, hparams', List.length_map]
        have hbound := hnoted.bound request.name site hσ hparams hargs
        have hrun : Rewords K b σ
            (bodyTurns (Treewalk.eval b fuel) (turns b fuel) f request.args
              (c₀.entered request.name site))
            (runBody b (Treewalk.eval b fuel) f request.args (c₀.entered request.name site))
            (bodyTurns (Treewalk.eval b fuel) (turns b fuel) g request.args
              (d₀.entered request.name site))
            (runBody b (Treewalk.eval b fuel) g request.args (d₀.entered request.name site)) := by
          rw [← hparams'] at hbound
          rw [runBody_of_eq hargs, runBody_of_eq hargs']
          simp only [bodyTurns, if_pos hargs, if_pos hargs']
          exact exec ih f.body g.body b.nil _ _ hbody hbound
        refine .cons rfl hnoted (hrun.bind fun v c₂ d₂ hv hv' hc₂ => ?_)
        -- what comes up is the frame of the caller, on both sides
        have hbelow : c₂.below = c₀.frame :: c₀.below := (runBody_below hv).trans (by simp)
        have hbelow' : d₂.below = d₀.frame :: d₀.below := (runBody_below hv').trans (by simp)
        rw [bind_of_ok (leave_apply c₂), bind_of_ok (leave_apply d₂)]
        exact .of_move rfl hc₂ (.ok (hnoted.left hc₂ hbelow hbelow'))
      · have hargs' : request.args.length ≠ g.params.length := by
          rwa [hparams', List.length_map]
        rw [bind_of_error (runBody_of_ne hargs), bind_of_error (runBody_of_ne hargs'),
          runBody_of_ne hargs, runBody_of_ne hargs', after_error, after_error]
        simp only [bodyTurns, if_neg hargs, List.append_nil, entered_frame, hparams',
          List.length_map]
        exact .of_move rfl hnoted (.error hentered (.same fun _ _ name _ _ => hpush rfl name))

omit ih

/-- The second and the third tier. What is asked with arguments is not asked in vain, and to invoke
something is no question. -/
theorem offer {line line' : W → TraceLine} (request : Request V) (target : V) (args : List V)
    (hc : Core.Reworded K ρ c d) :
    Rewords K b ρ (offerTurns b line request target args c)
      (Core.offer b line target request.name args c)
      (offerTurns b line' request target args d)
      (Core.offer b line' target request.name args d) := by
  have hhas : Rewords K b ρ [⟨c, .has request target⟩] (ask (b.has target request.name) c)
      [⟨d, .has request target⟩] (ask (b.has target request.name) d) := by
    refine .of_move rfl hc (hc.ask _ fun f w hfail name place _ => ?_)
    -- a question that fails is not answered with no
    refine ⟨_, rfl, fun hvain => ?_⟩
    obtain ⟨hmove, w', hno⟩ := hvain
    cases hmove
    cases hfail.symm.trans hno
  refine hhas.bind fun known c₁ d₁ _ _ hc₁ => ?_
  cases known with
  | false => exact .pure none hc₁
  | true =>
    have hnoted := hc₁.noted (line c₁.world) (line' d₁.world)
    refine .bindStep (get_apply c₁) (get_apply d₁) ?_
    refine .bindStep (note_apply _ c₁) (note_apply _ d₁) ?_
    refine .bindStep (get_apply _) (get_apply _) ?_
    rw [hnoted.activation_eq]
    refine Rewords.bindPure (.of_move rfl hnoted (hnoted.ask _ fun _ _ _ name _ _ => ?_))
    exact ⟨_, rfl, fun hvain => by cases hvain.1⟩

include ih

/-- **The tiers of a call**, one after the other. -/
theorem resolve (request : Request V) (site : Option Place) (hc : Core.Reworded K ρ c d) :
    Rewords K b ρ (resolveTurns b (Treewalk.eval b fuel) (turns b fuel) request site c)
      (Core.resolve b (Treewalk.eval b fuel) request.name request.args site c)
      (resolveTurns b (Treewalk.eval b fuel) (turns b fuel) request site d)
      (Core.resolve b (Treewalk.eval b fuel) request.name request.args site d) := by
  refine (callFunction ih request site hc).bind fun r c₁ d₁ _ _ h₁ => ?_
  cases r with
  | some v => exact .pure (some v) h₁
  | none =>
    simp only [environmentTurns, callEnvironment_eq_offer]
    refine (offer request b.environment request.args h₁).bind fun r c₂ d₂ _ _ h₂ => ?_
    cases r with
    | some v => exact .pure (some v) h₂
    | none =>
      cases hargs : request.args with
      | nil =>
        simp only [receiverTurns, hargs]
        exact .pure none h₂
      | cons target rest =>
        simp only [receiverTurns, hargs, callReceiver_eq_offer]
        exact offer request target rest h₂

/-- A name that no tier knows is a fault on both sides. What the two say may depend on how the name
is written. -/
theorem unresolved (request : Request V) (site : Option Place) {use use' : Use} {place : Place}
    (hc : Core.Reworded K ρ c d)
    (hrefused : ∀ c₁ d₁ : Core V W, c₁.current = c.current → d₁.current = d.current →
      (request.args = [] → LastInVain b request.name
        (resolveTurns b (Treewalk.eval b fuel) (turns b fuel) request site c)) →
      Halts K b (resolveTurns b (Treewalk.eval b fuel) (turns b fuel) request site c) c₁ d₁
        (.fault (.raise (.unresolved request.name use) place))
        (.fault (.raise (.unresolved request.name use') place))) :
    Rewords K b ρ (resolveTurns b (Treewalk.eval b fuel) (turns b fuel) request site c)
      ((do
        match ← Core.resolve b (Treewalk.eval b fuel) request.name request.args site with
        | some v => return v
        | none => raise (.unresolved request.name use) place : Eval V W V) c)
      (resolveTurns b (Treewalk.eval b fuel) (turns b fuel) request site d)
      ((do
        match ← Core.resolve b (Treewalk.eval b fuel) request.name request.args site with
        | some v => return v
        | none => raise (.unresolved request.name use') place : Eval V W V) d) := by
  refine (resolve ih request site hc).bindLast fun r c₁ d₁ h h' hc₁ => ?_
  cases r with
  | some v => exact .ok hc₁
  | none =>
    refine .error hc₁ (hrefused c₁ d₁ (resolve_eq_none h).2 (resolve_eq_none h').2 fun hargs => ?_)
    obtain ⟨name, args⟩ := request
    obtain rfl : args = [] := hargs
    exact lastInVain_of_resolve_eq_none h

omit ih

/-- A fault about a name is no wrong number of arguments. -/
theorem isArity_raise_unresolved (name : String) (use : Use) (place : Place) :
    (Fault.raise (.unresolved name use) place).isArity = false := by
  unfold Fault.raise
  split <;> rfl

/-- Moving a fault to a place keeps what two computations have in common. -/
theorem located {x x' : Eval V W V} (place : Place) (h : Rewords K b ρ ts (x c) ts' (x' d)) :
    Rewords K b ρ ts (Core.located place x c) ts' (Core.located place x' d) := by
  obtain ⟨hturns, hends⟩ := h
  refine ⟨hturns, ?_⟩
  unfold Core.located
  generalize x c = r at hends
  generalize x' d = r' at hends
  cases hends with
  | ok hc => exact .ok hc
  | @error halt _ _ _ _ hc hh =>
    cases hh with
    | same hlast =>
      cases halt with
      | fault f => exact .error hc (.same fun _ _ => hlast f rfl)
      | outOfFuel => exact .error hc (.same (by rintro _ ⟨⟩))
    | @refused name old hname hat hlast =>
      simp only [Fault.movedTo_of_not_isArity _ (isArity_raise_unresolved name _ old)]
      exact .error hc (.refused hname hat hlast)

end Calls

/-- **A variant of a node is evaluated like the node.** -/
theorem eval (K : Wording) (b : Bridge V W) (fuel : Nat) :
    ∀ (ρ : String → String) (n n' : Node) (c d : Core V W), Variant K ρ n n' →
      Core.Reworded K ρ c d →
      Rewords K b ρ (turns b fuel n c) (Treewalk.eval b fuel n c) (turns b fuel n' d)
        (Treewalk.eval b fuel n' d) := by
  induction fuel with
  | zero =>
    intro ρ n n' c d _ hc
    exact .of_quiet (.error hc (.same (by rintro _ ⟨⟩)))
  | succ fuel ih =>
    intro ρ n n' c d hn hc
    have hvisit {c d : Core V W} (hc : Core.Reworded K ρ c d) :
        Core.Reworded K ρ (c.visited n) (d.visited n') := hc.visited hn.place_eq
    cases hn with
    | literal => exact .bindStep (visit_apply _ c) (visit_apply _ d) (.pure _ (hvisit hc))
    | @string _ place text =>
      refine .bindStep (visit_apply _ c) (visit_apply _ d) (.of_quiet ?_)
      rw [make_apply, make_apply, (hvisit hc).world_eq]
      exact .ok ((hvisit hc).inWorld _)
    | @var _ place name hname =>
      simp only [turns, Treewalk.eval]
      refine .bindStep (visit_apply _ c) (visit_apply _ d) ?_
      refine .bindStep (get_apply _) (get_apply _) ?_
      simp only [visited_frame, hc.frame.get?_eq hc.names.injOn hname]
      cases hget : c.frame.get? name with
      | some v => exact .pure v (hvisit hc)
      | none =>
        rw [Frame.Renamed.eq_of_get?_eq_none hc.names hget] at hvisit ⊢
        exact located place (unresolved ih ⟨name, []⟩ (some place) (hvisit hc) fun c₁ d₁ hc₁ _ _ =>
          .same fun _ _ _ _ hat => by cases hc₁.symm.trans hat.1)
    | @bare _ place name hname =>
      simp only [turns, Treewalk.eval]
      refine .bindStep (a := []) rfl (visit_apply _ d) ?_
      refine .bindStep (visit_apply _ c) (get_apply _) ?_
      simp only [visited_frame, hc.frame.get?_eq_none_of_bare hc.names hname]
      exact located place (unresolved ih ⟨name, []⟩ (some place) (hvisit hc)
        fun c₁ d₁ hc₁ hd₁ hlast => .refused hname ⟨hc₁, hd₁⟩ (hlast rfl))
    | @assign _ place name value value' hname hvalue =>
      simp only [turns, Treewalk.eval]
      refine .bindStep (visit_apply _ c) (visit_apply _ d) ?_
      refine (ih ρ value value' _ _ hvalue (hvisit hc)).bind fun v c₁ d₁ _ _ hc₁ => ?_
      exact .of_move rfl hc₁ (.ok (hc₁.assigned hname v))
    | @cond _ place test test' thenBody thenBody' elseBody elseBody' htest hthen helse =>
      simp only [turns, Treewalk.eval]
      refine (ih ρ test test' c d htest hc).bind fun v c₁ d₁ _ _ hc₁ => ?_
      refine .bindStep (visit_apply _ c₁) (visit_apply _ d₁) ?_
      refine (ask_truthy v (hvisit hc₁)).bind fun truth c₂ d₂ _ _ hc₂ => ?_
      cases truth with
      | true => exact exec ih thenBody thenBody' b.nil c₂ d₂ hthen hc₂
      | false =>
        -- no branch is an empty branch
        have h := exec ih _ _ b.nil c₂ d₂ helse hc₂
        cases elseBody <;> cases elseBody' <;> exact h
    | @loop _ place test test' body body' htest hbody =>
      simp only [turns, Treewalk.eval]
      refine (ih ρ test test' c d htest hc).bind fun v c₁ d₁ _ _ hc₁ => ?_
      refine .bindStep (visit_apply _ c₁) (visit_apply _ d₁) ?_
      refine (ask_truthy v (hvisit hc₁)).bind fun truth c₂ d₂ _ _ hc₂ => ?_
      cases truth with
      | true =>
        exact (exec ih body body' b.nil c₂ d₂ hbody hc₂).bind fun _ c₃ d₃ _ _ hc₃ =>
          ih ρ _ _ c₃ d₃ (.loop htest hbody) hc₃
      | false => exact .pure b.nil hc₂
    | @define _ σ place name params params' body body' hσ hparams hparams' hbody =>
      simp only [turns, Treewalk.eval]
      refine .bindStep (visit_apply _ c) (visit_apply _ d) ?_
      refine Rewords.bindPure (α := Unit) (.of_move rfl (hvisit hc) ?_)
      have hfound := (hvisit hc).functions name
      generalize hf : (c.visited _).functions.lookup name = r at hfound
      generalize hg : (d.visited _).functions.lookup name = r' at hfound
      cases hfound with
      | none =>
        rw [define_of_new hf, define_of_new hg]
        exact .ok ((hvisit hc).defined ⟨σ, hσ, hparams, hparams', hbody⟩ name)
      | some =>
        rw [define_of_known (by rw [hf]; rfl), define_of_known (by rw [hg]; rfl)]
        exact .error (hvisit hc) (.same fun _ _ _ _ hat => by cases hat.1)
    | @call _ place name args args' hargs =>
      simp only [turns, Treewalk.eval]
      refine (evalAll ih args args' c d hargs hc).bind fun vs c₁ d₁ _ _ hc₁ => ?_
      refine .bindStep (visit_apply _ c₁) (visit_apply _ d₁) ?_
      exact located place (unresolved ih ⟨name, vs⟩ (some place) (hvisit hc₁) fun c₂ d₂ _ hd₂ _ =>
          .same fun _ _ _ _ hat => by cases hd₂.symm.trans hat.2)

end Rewords

/-! ### Programs -/

/-- **A program whose statements are variants is evaluated like the program.** -/
theorem Rewords.program (K : Wording) (b : Bridge V W) (fuel : Nat) {p p' : Program}
    (h : Variants K id p.body p'.body) {c d : Core V W} (hc : Core.Reworded K id c d) :
    Rewords K b id (p.turns b fuel c) (p.eval b fuel c) (p'.turns b fuel d) (p'.eval b fuel d) :=
  exec (Rewords.eval K b fuel) p.body p'.body b.nil c d h hc

/-! ### What is seen of the two -/

/-- The same turn in another wording makes the same invocation. -/
theorem Turn.Reworded.invocation?_eq {t t' : Turn V W} (h : t.Reworded K t') :
    t'.invocation? = t.invocation? := by
  obtain ⟨ρ, hmove, hcore⟩ := h
  simp only [Turn.invocation?, hmove, hcore.world_eq]
  cases t.move <;> rfl

/-- **The same turns in another wording make the same invocations.** -/
theorem invocations_eq_of_reworded {ts ts' : List (Turn V W)}
    (h : List.Forall₂ (Turn.Reworded K) ts ts') : invocations ts' = invocations ts := by
  induction h with
  | nil => rfl
  | cons hhead _ ih =>
    simp only [invocations, List.filterMap_cons, hhead.invocation?_eq] at ih ⊢
    rw [ih]

/-- How a run ends that met a name which nobody knows: with a report, unless it cannot be
written. -/
theorem Runner.ending_unresolved (name : String) (use : Use) (place : Place) (n : Node)
    (hn : n.place = place) (calls : List CallEntry) :
    (Runner.ending (.raise (.unresolved name use) place) (some n) calls : Ending V) =
      if place.isWritable && calls.all (·.site.isWritable) then
        .failed ⟨"UnresolvedCall", place.locate (Cause.unresolved name use).text,
          place.positioned?, calls.map CallEntry.text⟩
      else .escaped (.host .tooManyDigits) := by
  have hcause : (Cause.unresolved name use).isWritable = true := rfl
  cases hplace : place.isWritable with
  | false =>
    rw [Fault.raise_of_not_isWritable hplace]
    simp [Runner.ending, Fault.failure, Fault.reportedAt, hn, hplace]
  | true =>
    rw [Fault.raise_of_isWritable hcause hplace]
    simp only [Runner.ending, Fault.failure, Fault.reportedAt, Fault.isWritable, hcause, hplace,
      Bool.true_and]
    cases calls.all (·.site.isWritable) <;> rfl

/-- The surroundings in the end are those of the core. -/
theorem outcome_snd (r : EStateM.Result Halt (Core V W) V) : (outcome r).2 = (coreOf r).world := by
  cases r with
  | ok => rfl
  | error halt => cases halt <;> rfl

/-- A report asks of a node only where it is. -/
theorem Fault.reportedAt_congr {n n' : Option Node} (h : n'.map Node.place = n.map Node.place)
    (f : Fault) : f.reportedAt n' = f.reportedAt n := by
  have helim (m : Option Node) : m.elim .nowhere Node.place = (m.map Node.place).getD .nowhere := by
    cases m <;> rfl
  cases f with
  | raised => rfl
  | host => rw [reportedAt, reportedAt, helim, helim, h]

/-- **What is seen of two evaluations that do the same.** The surroundings are the same in the end.
Either the two end alike, and do not report a bare name that is not known; or this is what both
report. -/
theorem Rewords.outcome_eq {b : Bridge V W} {ρ : String → String} {ts ts' : List (Turn V W)}
    {r r' : EStateM.Result Halt (Core V W) V} (h : Rewords K b ρ ts r ts' r') :
    (outcome r').2 = (outcome r).2 ∧
      ((outcome r').1 = (outcome r).1 ∧ (∀ failure, (outcome r).1 = .failed failure →
          ∀ name place, AtBare name place (coreOf r) (coreOf r') → ¬ LastInVain b name ts) ∨
        ∃ name ∈ K.bare, ∃ place failure, AtBare name place (coreOf r) (coreOf r') ∧
          LastInVain b name ts ∧ (outcome r).1 = .failed failure ∧
          failure.kind = "UnresolvedCall" ∧
          failure.message = place.locate ("undefined function " ++ name) ∧
          (outcome r').1 = .failed { failure with
            message := place.locate ("unknown method or local variable " ++ name) }) := by
  rw [outcome_snd, outcome_snd]
  cases h.ends with
  | ok hc => exact ⟨hc.world_eq, .inl ⟨rfl, by rintro _ ⟨⟩⟩⟩
  | @error halt _ c d _ hc hh =>
    refine ⟨hc.world_eq, ?_⟩
    cases hh with
    | same hlast =>
      cases halt with
      | outOfFuel => exact .inl ⟨rfl, by rintro _ ⟨⟩⟩
      | fault f =>
        have hending : Runner.ending f d.current d.calls =
            (Runner.ending f c.current c.calls : Ending V) := by
          simp only [Runner.ending, Fault.failure, Fault.reportedAt_congr hc.place_eq, hc.calls_eq]
        refine .inl ⟨hending, fun _ _ name place hat => ?_⟩
        exact (hlast f rfl name place hat).not_lastInVain
    | @refused name place hname hat hlast =>
      have hcall := Runner.ending_unresolved (V := V) name .call place (.call place name []) rfl
        c.calls
      have hbare := Runner.ending_unresolved (V := V) name .bare place (.var place name) rfl c.calls
      simp only [outcome, coreOf_error, hat.1, hat.2, hc.calls_eq]
      rw [hcall, hbare]
      by_cases hwritten : place.isWritable && c.calls.all (·.site.isWritable)
      · rw [if_pos hwritten, if_pos hwritten]
        exact .inr ⟨name, hname, place, _, ⟨hat.1, hat.2⟩, hlast, rfl, rfl, rfl, rfl⟩
      · rw [if_neg hwritten, if_neg hwritten]
        exact .inl ⟨rfl, by rintro _ ⟨⟩⟩

/-! ### Runs -/

namespace Runner

variable (r : Runner V W) (tracing : Tracing) (fuel : Nat) (p p' : Program) (w : W)

/-- **A run fails because of a call that another program writes as a bare name.** The first run is
at a call without arguments, the second at the bare name, and what the first did last was to ask the
environment for that name, in vain. -/
structure RefusesBare (name : String) (place : Place) (failure : Failure) : Prop where
  failed : (r.run tracing fuel (.program p) w).ending = .failed failure
  bare : ∃ c d, (r.run tracing fuel (.program p) w).core = some c ∧
    (r.run tracing fuel (.program p') w).core = some d ∧ AtBare name place c d
  vain : LastInVain r.bridge name (r.turns tracing fuel (.program p) w)

/-- **A variant of a program runs like the program.** It puts out the same, makes the same
invocations, and leaves the same surroundings behind. And either it ends in the same way, and no
bare name was refused; or one was, and the two reports differ in how they say so. -/
theorem variants_run (h : Variants K id p.body p'.body) :
    let run := r.run tracing fuel (.program p) w
    let run' := r.run tracing fuel (.program p') w
    run'.effects = run.effects ∧ run'.world = run.world ∧
      invocations (r.turns tracing fuel (.program p') w) =
        invocations (r.turns tracing fuel (.program p) w) ∧
      ((run'.ending = run.ending ∧
          ∀ name place failure, ¬ r.RefusesBare tracing fuel p p' w name place failure) ∨
        ∃ name ∈ K.bare, ∃ place failure, r.RefusesBare tracing fuel p p' w name place failure ∧
          failure.kind = "UnresolvedCall" ∧
          failure.message = place.locate ("undefined function " ++ name) ∧
          run'.ending = .failed { failure with
            message := place.locate ("unknown method or local variable " ++ name) }) := by
  intro run run'
  have hrewords := Rewords.program K r.bridge fuel h
    (c := r.start tracing w) (d := r.start tracing w) (.fresh r.maxDepth tracing _)
  obtain ⟨hworld, hends⟩ := hrewords.outcome_eq
  obtain ⟨hrun, heffects⟩ := r.run_outcome tracing fuel p w
  obtain ⟨hrun', heffects'⟩ := r.run_outcome tracing fuel p' w
  have hending : run.ending = _ := congrArg Prod.fst hrun
  have hending' : run'.ending = _ := congrArg Prod.fst hrun'
  have hsame : run'.world = run.world :=
    (congrArg Prod.snd hrun').trans (hworld.trans (congrArg Prod.snd hrun).symm)
  refine ⟨heffects'.trans ((congrArg _ hsame).trans heffects.symm), hsame,
    invocations_eq_of_reworded hrewords.aligned, ?_⟩
  have hcore := r.run_core tracing fuel p w
  have hcore' := r.run_core tracing fuel p' w
  rcases hends with ⟨halike, hnot⟩ |
    ⟨name, hname, place, failure, hat, hvain, hfailed, hkind, hmessage, hfailed'⟩
  · refine .inl ⟨hending'.trans (halike.trans hending.symm), ?_⟩
    rintro name place failure ⟨hfailed, ⟨c, d, hc, hd, hat⟩, hvain⟩
    obtain rfl := Option.some.inj (hcore.symm.trans hc)
    obtain rfl := Option.some.inj (hcore'.symm.trans hd)
    exact hnot failure (hending.symm.trans hfailed) name place hat hvain
  · exact .inr ⟨name, hname, place, failure,
      ⟨hending.trans hfailed, ⟨_, _, hcore, hcore', hat⟩, hvain⟩, hkind, hmessage,
      hending'.trans hfailed'⟩

variable {r tracing fuel p p' w}

/-- A run refuses one bare name, and reports it once. -/
theorem RefusesBare.unique {name name' : String} {place place' : Place}
    {failure failure' : Failure} (h : r.RefusesBare tracing fuel p p' w name place failure)
    (h' : r.RefusesBare tracing fuel p p' w name' place' failure') :
    name' = name ∧ place' = place ∧ failure' = failure := by
  obtain ⟨hfailed, ⟨c, d, hc, -, hat⟩, -⟩ := h
  obtain ⟨hfailed', ⟨c', d', hc', -, hat'⟩, -⟩ := h'
  obtain rfl := Option.some.inj (hc.symm.trans hc')
  cases hat.1.symm.trans hat'.1
  cases hfailed.symm.trans hfailed'
  exact ⟨rfl, rfl, rfl⟩

end Runner

end Treewalk
