import Treewalk.Proofs.Stack
import Treewalk.Proofs.Unplaced
import Treewalk.Runner.Session

/-!
# What is put out

A host writes down every text that it puts out, and the list is emptied when a run begins. So there
are two records of the same events: what was written at all, which only grows, and the effects of
one run, which are a part of its result. A text is noted first and written afterwards, and the
stream may refuse it; then it has been noted, and nothing of it is written. A host does not go on
after that, and neither does the run. So the two records agree but for one text at most, the last.

A world can only move *onward* (`Treewalk.World.Onward`): input is taken from the front, the setting
with its routines stays as it is, and of what the machine is going to answer something is used up.
What became of the texts that were noted on the way is a `Treewalk.Delivery`. Both are followed
through the acts that hosts are made of, through courses, and through sessions.

* **`Treewalk.Session.effects_written`**: the effects of a run are what was written during it, and
  behind that the text that the stream refused, if it refused one.
* **`Treewalk.Session.effect_unwritten`**: a stream that knows no accents, and an effect that was
  never written.
-/

namespace Treewalk

open Treewalk.Core

variable {V W α β : Type}

/-! ### Onward -/

/-- **A machine after another**: of the answers that it is going to give some were used up, and what
has been done to the class of literals' texts stays done. -/
structure Machine.Onward (m m' : Machine) : Prop where
  refusal_eq : ∃ k, ∀ n, m'.refusal n = m.refusal (n + k)
  address_eq : ∃ k, ∀ n, m'.address n = m.address (n + k)
  annotated : m.annotated = true → m'.annotated = true

namespace Machine.Onward

variable {m m₁ m' : Machine}

protected theorem refl (m : Machine) : m.Onward m := ⟨⟨0, fun _ => rfl⟩, ⟨0, fun _ => rfl⟩, id⟩

theorem trans (h : m.Onward m₁) (h' : m₁.Onward m') : m.Onward m' := by
  obtain ⟨k, hrefusal⟩ := h.refusal_eq
  obtain ⟨k', hrefusal'⟩ := h'.refusal_eq
  obtain ⟨j, haddress⟩ := h.address_eq
  obtain ⟨j', haddress'⟩ := h'.address_eq
  refine ⟨⟨k' + k, fun n => ?_⟩, ⟨j' + j, fun n => ?_⟩, h'.annotated ∘ h.annotated⟩
  · rw [hrefusal', hrefusal, Nat.add_assoc]
  · rw [haddress', haddress, Nat.add_assoc]

theorem write (m : Machine) (text : String) : m.Onward (m.write text).2 :=
  ⟨⟨1, fun _ => rfl⟩, ⟨0, fun _ => rfl⟩, id⟩

theorem locate (m : Machine) : m.Onward m.locate.2 :=
  ⟨⟨0, fun _ => rfl⟩, ⟨1, fun _ => rfl⟩, id⟩

theorem annotate (m : Machine) : m.Onward { m with annotated := true } :=
  ⟨⟨0, fun _ => rfl⟩, ⟨0, fun _ => rfl⟩, fun _ => rfl⟩

end Machine.Onward

/-- A machine that gives the same answer whenever it is asked. -/
structure Machine.IsSteady (m : Machine) : Prop where
  refusal_eq (n : Nat) : m.refusal n = m.refusal 0
  address_eq (n : Nat) : m.address n = m.address 0

/-- Such a machine stays as it is, but for the annotations. -/
theorem Machine.Onward.eq_of_isSteady {m m' : Machine} (h : m.Onward m') (hm : m.IsSteady)
    (hannotated : m'.annotated = m.annotated) : m' = m := by
  obtain ⟨k, hrefusal⟩ := h.refusal_eq
  obtain ⟨j, haddress⟩ := h.address_eq
  have hrefusal' : m'.refusal = m.refusal :=
    funext fun n => by rw [hrefusal, hm.refusal_eq, hm.refusal_eq n]
  have haddress' : m'.address = m.address :=
    funext fun n => by rw [haddress, hm.address_eq, hm.address_eq n]
  cases m
  cases m'
  simp_all

/-- **A world after another**: what a host can do to everything but its heap and its records. -/
structure World.Onward (w w' : World) : Prop where
  setting_eq : w'.setting = w.setting
  registered_eq : w'.registered = w.registered
  input_suffix : w'.input <:+ w.input
  machine : w.machine.Onward w'.machine

namespace World.Onward

variable {w w₁ w' : World}

/-- A world that differs from another only in its heap, its records and its ticks. -/
theorem of_eq (hsetting : w'.setting = w.setting) (hregistered : w'.registered = w.registered)
    (hinput : w'.input = w.input) (hmachine : w'.machine = w.machine) : w.Onward w' :=
  ⟨hsetting, hregistered, hinput ▸ List.suffix_refl _, hmachine ▸ .refl _⟩

protected theorem refl (w : World) : w.Onward w := of_eq rfl rfl rfl rfl

theorem trans (h : w.Onward w₁) (h' : w₁.Onward w') : w.Onward w' :=
  ⟨h'.setting_eq.trans h.setting_eq, h'.registered_eq.trans h.registered_eq,
    h'.input_suffix.trans h.input_suffix, h.machine.trans h'.machine⟩

/-- At the end of the input there is none left. -/
theorem input_eq_nil (h : w.Onward w') (hinput : w.input = []) : w'.input = [] := by
  have hsuffix := h.input_suffix
  rw [hinput] at hsuffix
  exact List.suffix_nil.mp hsuffix

end World.Onward

/-! ### Deliveries -/

/-- **What became of the texts that a host noted**: those that were written, and behind them the one
that the stream refused, if there is one, with what the stream made of it. -/
structure Delivery where
  written : List String
  refused : Option (String × Mishap)

namespace Delivery

/-- Nothing was noted. -/
def nothing : Delivery := ⟨[], none⟩

/-- All the texts that were noted. -/
def noted (d : Delivery) : List String := d.written ++ d.refused.toList.map Prod.fst

/-- **A stream does this** with texts that it is given one after another. -/
structure Fits (d : Delivery) (m : Machine) : Prop where
  taken (n : Nat) (text : String) : d.written[n]? = some text → m.refusal n text = none
  refused (text : String) (mishap : Mishap) : d.refused = some (text, mishap) →
    m.refusal d.written.length text = some mishap

/-- The texts that were noted, in one text. -/
theorem join_noted (d : Delivery) : String.join d.noted =
    String.join d.written ++ ((d.refused.map Prod.fst).getD "") := by
  unfold noted
  cases d.refused <;> simp [String.join]

/-- A stream that refuses nothing takes everything. -/
theorem Fits.refused_eq_none {d : Delivery} {m : Machine} (h : d.Fits m)
    (hm : ∀ n text, m.refusal n text = none) : d.refused = none := by
  cases hd : d.refused with
  | none => rfl
  | some last =>
    have hrefused := h.refused last.1 last.2 hd
    rw [hm] at hrefused
    cases hrefused

/-- **A refusal is what ends** the work in which the text was put out. -/
def Ends (d : Delivery) (halt : Option Halt) : Prop :=
  ∀ text mishap, d.refused = some (text, mishap) → halt = some (.fault (.host mishap))

theorem Ends.refused_eq_none {d : Delivery} (h : d.Ends none) : d.refused = none := by
  cases hd : d.refused with
  | none => rfl
  | some last => exact nomatch h last.1 last.2 hd

theorem nothing_ends (halt : Option Halt) : nothing.Ends halt := nofun

end Delivery

/-- **The texts of a delivery lead from a world to another**: both records have grown by them. -/
structure World.Delivered (w : World) (d : Delivery) (w' : World) : Prop where
  effects_eq : w'.effects.toList = w.effects.toList ++ d.noted
  output_eq : w'.output.toList = w.output.toList ++ d.written
  fits : d.Fits w.machine
  refusal_eq (n : Nat) : w'.machine.refusal n = w.machine.refusal (n + d.noted.length)

namespace World.Delivered

variable {w w₁ w' : World} {d : Delivery} {texts : List String}

theorem nothing (heffects : w'.effects = w.effects) (houtput : w'.output = w.output)
    (hrefusal : w'.machine.refusal = w.machine.refusal) : w.Delivered .nothing w' where
  effects_eq := by simp [heffects, Delivery.noted, Delivery.nothing]
  output_eq := by simp [houtput, Delivery.nothing]
  fits := ⟨by simp [Delivery.nothing], by simp [Delivery.nothing]⟩
  refusal_eq n := by rw [hrefusal]; rfl

/-- A text that is put out is a delivery of its own. -/
theorem put (w : World) (text : String) : ∃ d, w.Delivered d ((Act.put text).worldAfter w) ∧
    d.Ends ((Act.put text).haltAfter w) := by
  unfold Ask.worldAfter Ask.haltAfter
  cases hrefusal : w.machine.refusal 0 text with
  | none =>
    rw [Act.put_of_taken hrefusal]
    refine ⟨⟨[text], none⟩, ⟨by simp [Delivery.noted], by simp, ⟨?_, by simp⟩, fun n => rfl⟩,
      by simp [Delivery.Ends]⟩
    intro n other hother
    obtain ⟨rfl, rfl⟩ : n = 0 ∧ text = other := by
      cases n <;> simp_all
    exact hrefusal
  | some m =>
    rw [Act.put_of_refused hrefusal]
    exact ⟨⟨[], some (text, m)⟩, ⟨by simp [Delivery.noted], by simp, ⟨by simp, by simp_all⟩,
      fun n => rfl⟩, by simp [Delivery.Ends]⟩

/-- **One delivery after another**, the first of which was not refused. -/
theorem trans (h : w.Delivered ⟨texts, none⟩ w₁) (h' : w₁.Delivered d w') :
    w.Delivered ⟨texts ++ d.written, d.refused⟩ w' where
  effects_eq := by
    rw [h'.effects_eq, h.effects_eq]
    simp [Delivery.noted]
  output_eq := by rw [h'.output_eq, h.output_eq, List.append_assoc]
  fits := by
    -- the stream answers the second delivery where it left off after the first
    have hshift (n : Nat) : w₁.machine.refusal n = w.machine.refusal (n + texts.length) := by
      simpa [Delivery.noted] using h.refusal_eq n
    refine ⟨fun n text htext => ?_, fun text m hrefused => ?_⟩
    · rcases Nat.lt_or_ge n texts.length with hn | hn
      · exact h.fits.taken n text (by rwa [List.getElem?_append_left hn] at htext)
      · rw [List.getElem?_append_right hn] at htext
        have htaken := h'.fits.taken _ text htext
        rwa [hshift, Nat.sub_add_cancel hn] at htaken
    · have hlast := h'.fits.refused text m hrefused
      rwa [hshift, Nat.add_comm, ← List.length_append] at hlast
  refusal_eq n := by
    have hlength : n + d.noted.length + texts.length =
        n + (Delivery.mk (texts ++ d.written) d.refused).noted.length := by
      simp only [Delivery.noted, List.length_append]
      omega
    rw [h'.refusal_eq, h.refusal_eq, ← hlength]
    simp [Delivery.noted]

end World.Delivered

/-! ### What hosts do -/

theorem Text.takeLine_suffix (s : List Char) : (takeLine s).2 <:+ s := by
  fun_induction takeLine s with
  | case1 => exact List.suffix_refl _
  | case2 rest => exact List.suffix_cons _ _
  | case3 c rest _ ih => exact ih.trans (List.suffix_cons _ _)

/-- What leads on from world to world leads on through one question after another. -/
theorem Ask.bind_worldAfter {R : W → W → Prop} (htrans : ∀ {w w₁ w' : W}, R w w₁ → R w₁ w' → R w w')
    {x : Ask W α} {f : α → Ask W β} {w : W} (hx : R w (x.worldAfter w))
    (hf : ∀ a w₁, R w₁ ((f a).worldAfter w₁)) : R w (Ask.worldAfter (x >>= f) w) := by
  unfold worldAfter at *
  cases hxw : x w with
  | ok a w₁ =>
    rw [hxw] at hx
    rw [bind_of_ok hxw]
    exact htrans hx (hf a w₁)
  | error fault w₁ =>
    rw [hxw] at hx
    rw [bind_of_error hxw]
    exact hx

namespace Act.Composed

variable {x : Act α}

/-- **Whatever a host does, its world moves onward.** -/
theorem onward (h : Composed x) (w : World) : w.Onward (Ask.worldAfter x w) := by
  induction h generalizing w with
  | pure | get | fail | refuse | state => exact .refl w
  | bind _ _ ih ihs => exact Ask.bind_worldAfter (R := World.Onward) .trans (ih w) ihs
  | answer a => cases a <;> exact .of_eq rfl rfl rfl rfl
  | object | store | count => exact .of_eq rfl rfl rfl rfl
  | put text =>
    unfold Ask.worldAfter
    cases hrefusal : w.machine.refusal 0 text with
    | none =>
      rw [put_of_taken hrefusal]
      exact ⟨rfl, rfl, List.suffix_refl _, .write w.machine text⟩
    | some m =>
      rw [put_of_refused hrefusal]
      exact ⟨rfl, rfl, List.suffix_refl _, .write w.machine text⟩
  | takeLine => exact ⟨rfl, rfl, Text.takeLine_suffix w.input, .refl _⟩
  | locate => exact ⟨rfl, rfl, List.suffix_refl _, .locate w.machine⟩
  | annotate => exact ⟨rfl, rfl, List.suffix_refl _, .annotate w.machine⟩

/-- **Whatever a host does, its texts are delivered**, up to one that is refused; and this one ends
what the host does. -/
theorem delivered (h : Composed x) (w : World) :
    ∃ d, w.Delivered d (Ask.worldAfter x w) ∧ d.Ends (Ask.haltAfter x w) := by
  induction h generalizing w with
  | pure | get | fail | refuse | state | object | store | count | takeLine | locate | annotate =>
    exact ⟨.nothing, .nothing rfl rfl rfl, Delivery.nothing_ends _⟩
  | answer a => cases a <;> exact ⟨.nothing, .nothing rfl rfl rfl, Delivery.nothing_ends _⟩
  | put text => exact World.Delivered.put w text
  | @bind _ _ x f _ _ ih ihs =>
    obtain ⟨d, hd, hends⟩ := ih w
    unfold Ask.worldAfter Ask.haltAfter at *
    cases hx : x w with
    | error fault w₁ =>
      rw [hx] at hd hends
      rw [Ask.bind_of_error hx]
      exact ⟨d, hd, hends⟩
    | ok a w₁ =>
      -- the first act went well, so none of its texts was refused
      rw [hx] at hd hends
      rw [Ask.bind_of_ok hx]
      obtain ⟨texts, refused⟩ := d
      obtain rfl : refused = none := hends.refused_eq_none
      obtain ⟨d', hd', hends'⟩ := ihs a w₁
      exact ⟨_, hd.trans hd', hends'⟩

end Act.Composed

/-! ### Along a course -/

section Course

variable {b : Bridge Value World} {s : Subject Value} {c c' : Core Value World}
  {ts : List (Turn Value World)} {o : Option Halt}

/-- **Along a course the world moves onward.** -/
theorem Course.onward (hb : b.IsComposed) (h : Course b s c ts o c') :
    c.world.Onward c'.world := by
  induction h with
  | rest | cut | visit | assign | conflict | unresolved | tooDeep => exact .refl _
  | next _ _ ih ih' => exact ih.trans ih'
  | note | define | arity => simpa using World.Onward.refl _
  | @make _ c text =>
    obtain ⟨heap, hheap⟩ := hb.text text c.world
    rw [inWorld_world, hheap]
    exact .of_eq rfl rfl rfl rfl
  | @truthy _ c _ v =>
    obtain ⟨f, hf⟩ := hb.truthy v
    rw [coreOf_ask, inWorld_world, hf]
    exact (Act.Composed.read f).onward c.world
  | call _ _ _ _ ih => exact ih
  | inside _ _ _ _ ih => simpa using ih
  | through _ _ _ _ ih => simpa using ih
  | @has request _ _ c target =>
    rw [coreOf_ask, inWorld_world]
    exact (hb.has target request.name).onward c.world
  | @invoke request _ _ c target args =>
    rw [coreOf_ask, inWorld_world]
    exact (hb.invoke c.activation target request.name args).onward c.world

/-- **Along a course texts are delivered**, up to one that is refused; and this one ends it. -/
theorem Course.delivered (hb : b.IsComposed) (h : Course b s c ts o c') :
    ∃ d, c.world.Delivered d c'.world ∧ d.Ends o := by
  -- what is said of an act is said of the question in which it is done
  have hasked {α : Type} {x : Act α} (hx : Act.Composed x) (c : Core Value World) :
      ∃ d, c.world.Delivered d (coreOf (ask x c)).world ∧ d.Ends (haltOf (ask x c)) := by
    rw [coreOf_ask, inWorld_world, haltOf_ask]
    exact hx.delivered c.world
  induction h with
  | rest | cut | visit | assign | conflict | unresolved | tooDeep | note | define | arity =>
    exact ⟨.nothing, by simpa using .nothing rfl rfl rfl, Delivery.nothing_ends _⟩
  | next _ _ ih ih' =>
    obtain ⟨⟨texts, refused⟩, hd, hends⟩ := ih
    obtain rfl : refused = none := hends.refused_eq_none
    obtain ⟨d', hd', hends'⟩ := ih'
    exact ⟨_, hd.trans hd', hends'⟩
  | @make _ c text =>
    obtain ⟨heap, hheap⟩ := hb.text text c.world
    rw [inWorld_world, hheap]
    exact ⟨.nothing, .nothing rfl rfl rfl, Delivery.nothing_ends _⟩
  | truthy v =>
    obtain ⟨f, hf⟩ := hb.truthy v
    rw [hf]
    exact hasked (.read f) _
  | call _ _ _ _ ih =>
    obtain ⟨d, hd, hends⟩ := ih
    refine ⟨d, hd, fun text m hrefused => ?_⟩
    -- a call does not move what is no wrong number of arguments
    rw [hends text m hrefused]
    rfl
  | inside _ _ _ _ ih => simpa using ih
  | through _ _ _ _ ih => simpa using ih
  | has target => exact hasked (hb.has target _) _
  | @invoke request _ _ c target args => exact hasked (hb.invoke c.activation target _ args) c

end Course

/-! ### Along a session -/

namespace Runner

variable {r : Runner Value World} {tracing : Tracing} {fuel : Nat} {job : Job} {w : World}

/-- In the evaluation of what a job is about the world moves onward, and texts are delivered. -/
theorem evaluation_onward (hr : r.bridge.IsComposed) (fuel : Nat) (p : Except String Program)
    (c : Core Value World) :
    c.world.Onward (coreOf (r.evaluation fuel p c)).world ∧
      ∃ d, c.world.Delivered d (coreOf (r.evaluation fuel p c)).world ∧
        d.Ends (haltOf (r.evaluation fuel p c)) := by
  cases p with
  | ok p =>
    have hcourse := p.eval_follows r.bridge fuel c
    exact ⟨hcourse.onward hr, hcourse.delivered hr⟩
  | error typeName =>
    exact ⟨.refl _, .nothing, .nothing rfl rfl rfl, Delivery.nothing_ends _⟩

/-- **During a run the world moves onward**, from the moment when the effects were forgotten, and
texts are delivered. What is reported are the effects at the end, or none if the job cannot be read;
and a refusal is what the run ended with. -/
theorem run_onward (hr : r.bridge.IsComposed) :
    (r.bridge.clear w).Onward (r.run tracing fuel job w).world ∧
      ((r.run tracing fuel job w).effects = r.bridge.effects (r.run tracing fuel job w).world ∨
        (r.run tracing fuel job w).effects = [] ∧
          (r.run tracing fuel job w).world = r.bridge.clear w) ∧
      ∃ d, (r.bridge.clear w).Delivered d (r.run tracing fuel job w).world ∧
        ∀ text m, d.refused = some (text, m) → ∃ core,
          (r.run tracing fuel job w).core = some core ∧
          (r.run tracing fuel job w).ending = ending (.host m) core.current core.calls := by
  simp only [run]
  cases job.load r.file with
  | error fault =>
    have hnothing : (r.bridge.clear w).Delivered .nothing (r.bridge.clear w) :=
      .nothing rfl rfl rfl
    cases fault with
    | host m => exact ⟨.refl _, .inr ⟨rfl, rfl⟩, .nothing, hnothing, nofun⟩
    | raised cause place => exact ⟨.refl _, .inl rfl, .nothing, hnothing, nofun⟩
  | ok p =>
    obtain ⟨honward, d, hd, hends⟩ :=
      evaluation_onward hr fuel p (fresh r.maxDepth tracing (r.bridge.clear w))
    simp only [evaluate]
    cases hresult : r.evaluation fuel p (fresh r.maxDepth tracing (r.bridge.clear w)) with
    | ok v c =>
      rw [hresult] at honward hd hends
      refine ⟨honward, .inl rfl, d, hd, fun text m hrefused => ?_⟩
      exact nomatch hends text m hrefused
    | error h c =>
      rw [hresult] at honward hd hends
      cases h with
      | fault f =>
        refine ⟨honward, .inl rfl, d, hd, fun text m hrefused => ⟨c, rfl, ?_⟩⟩
        obtain rfl : f = .host m := by simpa using hends text m hrefused
        rfl
      | outOfFuel =>
        refine ⟨honward, .inl rfl, d, hd, fun text m hrefused => ?_⟩
        exact nomatch hends text m hrefused

/-- The bridges that look at a host, and what they say of its effects. -/
theorem reflects {b : Bridge Value World} (hb : b = Bridges.reflective ∨ b = Bridges.nilFalse) :
    b.IsComposed ∧ (∀ w, b.clear w = { w with effects := #[] }) ∧
      ∀ w, b.effects w = Bridges.effects w := by
  rcases hb with rfl | rfl
  · exact ⟨Bridges.reflective_isComposed, fun _ => rfl, fun _ => rfl⟩
  · exact ⟨Bridges.nilFalse_isComposed, fun _ => rfl, fun _ => rfl⟩

/-- **What a run reports is what it added to what was written**, and behind that the text that the
stream refused, if it refused one. -/
theorem run_delivered (hr : r.bridge = Bridges.reflective ∨ r.bridge = Bridges.nilFalse) :
    ∃ d : Delivery, (r.run tracing fuel job w).effects.map (·.message) = d.noted ∧
      (r.run tracing fuel job w).world.output.toList = w.output.toList ++ d.written ∧
      d.Fits w.machine ∧
      ∀ text m, d.refused = some (text, m) → ∃ core,
        (r.run tracing fuel job w).core = some core ∧
        (r.run tracing fuel job w).ending = ending (.host m) core.current core.calls := by
  obtain ⟨hcomposed, hclear, heffects⟩ := reflects hr
  obtain ⟨-, hreport, d, hd, hends⟩ := run_onward hcomposed
  generalize r.run tracing fuel job w = run at *
  rw [hclear] at hd hreport
  rcases hreport with hreport | ⟨hreport, hworld⟩
  · refine ⟨d, ?_, hd.output_eq, hd.fits, hends⟩
    rw [hreport, heffects, Bridges.effects, List.map_map]
    simpa [Function.comp_def] using hd.effects_eq
  · refine ⟨.nothing, ?_, ?_, ⟨nofun, nofun⟩, nofun⟩
    · rw [hreport]
      rfl
    · rw [hworld]
      exact (List.append_nil _).symm

end Runner

/-- All that was written, in one text. -/
def World.writtenText (w : World) : String := String.join w.output.toList

namespace Session

/-- A session keeps its bridge and its limit. -/
theorem step_runner (s : Session V W) (e : Errand) :
    (s.step e).2.runner.bridge = s.runner.bridge ∧
      (s.step e).2.runner.maxDepth = s.runner.maxDepth := by
  simp only [step]
  cases e.task.toJob with
  | ok job => exact ⟨rfl, rfl⟩
  | error m => exact ⟨rfl, rfl⟩

theorem after_runner (es : List Errand) : ∀ s : Session V W,
    (s.after es).runner.bridge = s.runner.bridge ∧
      (s.after es).runner.maxDepth = s.runner.maxDepth := by
  induction es with
  | nil => exact fun s => ⟨rfl, rfl⟩
  | cons e es ih =>
    intro s
    obtain ⟨hbridge, hdepth⟩ := ih (s.step e).2
    obtain ⟨hbridge', hdepth'⟩ := s.step_runner e
    exact ⟨hbridge.trans hbridge', hdepth.trans hdepth'⟩

/-- **Whatever is run, the world moves onward.** -/
theorem step_onward {s : Session Value World}
    (hs : s.runner.bridge = Bridges.reflective ∨ s.runner.bridge = Bridges.nilFalse) (e : Errand) :
    s.world.Onward (s.step e).2.world := by
  simp only [step]
  cases e.task.toJob with
  | error m => exact .refl _
  | ok job =>
    obtain ⟨hcomposed, hclear, -⟩ := Runner.reflects hs
    have hforgotten : s.world.Onward (s.runner.bridge.clear s.world) := by
      rw [hclear]
      exact .of_eq rfl rfl rfl rfl
    exact hforgotten.trans (Runner.run_onward
      (r := { s.runner with file := e.task.fileName s.runner.file }) hcomposed).1

theorem after_onward (history : List Errand) : ∀ {s : Session Value World},
    (s.runner.bridge = Bridges.reflective ∨ s.runner.bridge = Bridges.nilFalse) →
    s.world.Onward (s.after history).world := by
  induction history with
  | nil => exact fun _ => .refl _
  | cons e rest ih =>
    intro s hs
    exact (step_onward hs e).trans (ih ((s.step_runner e).1 ▸ hs))

/-- **The effects of a run are what was written during it**, and behind that the text that the
stream refused, if it refused one. In a session with a bridge that reflects a host, whatever was run
before and whatever the stream is going to refuse: the messages of a run are the texts that it added
to what was written, in order, and nothing is added to these but one text that the stream refused,
whose refusal is what the run ended with. So all that was written is what was written before and
then the messages, exactly if no text was refused that has anything in it; and so it is with a
stream that takes every text. -/
theorem effects_written {s : Session Value World}
    (hs : s.runner.bridge = Bridges.reflective ∨ s.runner.bridge = Bridges.nilFalse)
    (history : List Errand) (e : Errand) {run : Run Value World}
    (hrun : ((s.after history).step e).1 = .ok run) :
    ∃ d : Delivery, run.effects.map (·.message) = d.noted ∧
      run.world.output.toList = (s.after history).world.output.toList ++ d.written ∧
      d.Fits (s.after history).world.machine ∧
      (∀ text m, d.refused = some (text, m) → ∃ core, run.core = some core ∧
        run.ending = Runner.ending (.host m) core.current core.calls) ∧
      (run.world.writtenText =
          (s.after history).world.writtenText ++ String.join (run.effects.map (·.message)) ↔
        ∀ text m, d.refused = some (text, m) → text = "") ∧
      ((∀ n text, s.world.machine.refusal n text = none) →
        run.world.writtenText =
          (s.after history).world.writtenText ++ String.join (run.effects.map (·.message))) := by
  have hbridge := (after_runner history s).1
  obtain ⟨k, hrefusal⟩ := (after_onward history hs).machine.refusal_eq
  generalize s.after history = before at hbridge hrun hrefusal
  obtain ⟨d, hmessages, houtput, hfits, hends⟩ : ∃ d : Delivery,
      run.effects.map (·.message) = d.noted ∧
      run.world.output.toList = before.world.output.toList ++ d.written ∧
      d.Fits before.world.machine ∧
      ∀ text m, d.refused = some (text, m) → ∃ core, run.core = some core ∧
        run.ending = Runner.ending (.host m) core.current core.calls := by
    simp only [step] at hrun
    cases hjob : e.task.toJob with
    | error m =>
      rw [hjob] at hrun
      cases hrun
    | ok job =>
      rw [hjob] at hrun
      cases hrun
      exact Runner.run_delivered (hbridge ▸ hs)
  have htexts : run.world.writtenText =
      before.world.writtenText ++ String.join (run.effects.map (·.message)) ↔
        ∀ text m, d.refused = some (text, m) → text = "" := by
    rw [World.writtenText, houtput, String.join_append, hmessages, d.join_noted,
      World.writtenText, ← String.append_assoc]
    cases d.refused with
    | none => simp
    | some last =>
      -- what stands in front is the same on both sides
      constructor
      · rintro h text m ⟨⟩
        exact (String.append_right_inj _).mp (h.symm.trans (String.append_empty).symm)
      · intro h
        simp [h last.1 last.2 rfl]
  refine ⟨d, hmessages, houtput, hfits, hends, htexts, fun htakes => htexts.mpr ?_⟩
  have hnone : d.refused = none := hfits.refused_eq_none fun n text => by rw [hrefusal, htakes]
  intro text m hrefused
  rw [hnone] at hrefused
  cases hrefused

/-- A program that puts out a text and then an integer. -/
def saying (text : String) (n : Int) : Program :=
  ⟨"-", [.call .nowhere "puts" [.string .nowhere text, .literal .nowhere (.int n)]]⟩

/-- An errand with a few steps. -/
def errandOf (p : Program) : Errand := ⟨.job (.program p), .off, 3⟩

/-- A session that is about to begin. -/
def beginning : Session Value World :=
  ⟨⟨Bridges.reflective, "-", 64⟩, World.start .standard ""⟩

/-- The integer of the second program has too many digits, so that only the text is put out. -/
theorem effects_written_of_saying : ∃ run,
    ((beginning.after [errandOf (saying "one" 1)]).step
      (errandOf (saying "two" (Int.pow 10 5000)))).1 = .ok run ∧
    run.effects.map (·.message) = ["two\n"] ∧
    run.world.writtenText = "one\n1\n" ++ "two\n" := by
  refine ⟨_, rfl, by decide +kernel, ?_⟩
  obtain ⟨-, -, -, -, -, -, htexts⟩ := effects_written (s := beginning) (.inl rfl)
    [errandOf (saying "one" 1)] (errandOf (saying "two" (Int.pow 10 5000))) rfl
  rw [htexts fun _ _ => rfl]
  decide +kernel

/-- A stream that knows nothing but the characters of ASCII. -/
def plainStream : Machine :=
  { Machine.obliging with
    refusal := fun _ text =>
      if text.toList.all (·.toNat < 128) then none
      else some ⟨.encoding, "ordinal not in range(128)"⟩ }

/-- A session that is about to begin, with such a stream. -/
def plainly : Session Value World :=
  { beginning with world := { beginning.world with machine := plainStream } }

/-- A program that puts out two texts, the second of which has an accent. -/
def accented : Program :=
  ⟨"-", [.call .nowhere "puts" [.string .nowhere "one", .string .nowhere "\u00e9"]]⟩

/-- **An effect that was never written**: the second text is noted and then refused. -/
theorem effect_unwritten : ∃ run, (plainly.step (errandOf accented)).1 = .ok run ∧
    run.ending.report = "EnvironmentFailure: UnicodeEncodeError: ordinal not in range(128)" ∧
    run.effects.map (·.message) = ["one\n", "\u00e9\n"] ∧
    run.world.writtenText = plainly.world.writtenText ++ "one\n" ∧
    run.world.writtenText ≠
      plainly.world.writtenText ++ String.join (run.effects.map (·.message)) := by
  refine ⟨_, rfl, ?_⟩
  decide +kernel

end Session

end Treewalk
