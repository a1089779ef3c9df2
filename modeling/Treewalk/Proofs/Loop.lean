import Treewalk.Proofs.Fuel
import Treewalk.Proofs.Location
import Treewalk.Proofs.Stack

/-!
# How often a loop goes round

A loop evaluates its condition, asks whether the value counts as true, and if so executes its body
and begins again. Everything may change on the way: the condition may call functions, the body may
define them, and the surroundings may answer differently every time. So all that can be said of a
loop is what one round is (`Treewalk.Round`), and that the loop is as many rounds as there are, one
after the other, until the condition comes out false (`Treewalk.TestComesOut`) or something fails
(`Treewalk.RoundFails`).

The number of rounds is not taken from that chain: it is counted among the turns of the evaluation.
A round begins where the test of the loop is answered with yes (`Treewalk.Turn.BeginsRound`). The
same loop may be under way many times over, inside functions that its own condition or body calls;
but those have frames of their own, so the depth of the stack tells the rounds of one from those of
the others. In the frame of the loop itself nothing but the loop makes that test
(`Treewalk.Course.test_within`), since a node is no part of itself.

* **`Treewalk.loop_rounds`**: a loop returns after `k` executions of its body exactly if there are
  `k` rounds and then a test that comes out false, and it fails exactly if some rounds lead to a
  failure.
-/

namespace Treewalk

open Treewalk.Core

variable {V W α : Type}

/-! ### One round -/

section Rounds

variable (b : Bridge V W) (place : Place) (test : Node) (body : List Node)

/-- **The test of a loop comes out** true or false: the condition has a value, the loop is noted,
and the surroundings say what the value counts as. -/
def TestComesOut (truth : Bool) (c c' : Core V W) : Prop :=
  ∃ v c₁ w, Evaluates b test c v c₁ ∧ b.truthy v c₁.world = .ok truth w ∧
    c' = (c₁.visited (.loop place test body)).inWorld w

/-- **One round of a loop**: the test comes out true, and the body is executed. -/
def Round (c c' : Core V W) : Prop :=
  ∃ c₁ v, TestComesOut b place test body true c c₁ ∧ Executes b body c₁ v c'

/-- **A round fails**: in the condition, in the truth test, or in the body. -/
inductive RoundFails (f : Fault) (c c' : Core V W) : Prop
  /-- The condition has no value. -/
  | condition : Fails b test c f c' → RoundFails f c c'
  /-- The value of the condition cannot be tested. -/
  | truth {v : V} {c₁ : Core V W} {w : W} : Evaluates b test c v c₁ →
      b.truthy v c₁.world = .error f w → c' = (c₁.visited (.loop place test body)).inWorld w →
      RoundFails f c c'
  /-- The test comes out true, and the body breaks off. -/
  | body {c₁ : Core V W} : TestComesOut b place test body true c c₁ → BreaksOff b body c₁ f c' →
      RoundFails f c c'

end Rounds

/-! ### Counting rounds -/

/-- **A round of a loop begins** at a turn, in a frame that has so many below it and itself: the
test of the loop is answered with yes. -/
def Turn.BeginsRound (b : Bridge V W) (loop : Node) (depth : Nat) (t : Turn V W) : Prop :=
  ∃ v w, t.move = .truthy v ∧ t.core.current = some loop ∧ t.core.depth = depth ∧
    b.truthy v t.core.world = .ok true w

open Classical in
/-- **How many rounds of a loop begin** among some turns, at a depth of the stack. -/
noncomputable def roundsBegun (b : Bridge V W) (loop : Node) (depth : Nat) (ts : List (Turn V W)) :
    Nat :=
  ts.countP fun t => t.BeginsRound b loop depth

section Counting

variable {b : Bridge V W} {loop : Node} {depth : Nat}

theorem roundsBegun_append (ts ts' : List (Turn V W)) :
    roundsBegun b loop depth (ts ++ ts') =
      roundsBegun b loop depth ts + roundsBegun b loop depth ts' :=
  List.countP_append

theorem roundsBegun_cons_of_begins {t : Turn V W} (h : t.BeginsRound b loop depth)
    (ts : List (Turn V W)) :
    roundsBegun b loop depth (t :: ts) = roundsBegun b loop depth ts + 1 :=
  List.countP_cons_of_pos (by simpa using h)

theorem roundsBegun_eq_zero {ts : List (Turn V W)} (h : ∀ t ∈ ts, ¬ t.BeginsRound b loop depth) :
    roundsBegun b loop depth ts = 0 :=
  List.countP_eq_zero.mpr fun t ht => by simpa using h t ht

end Counting

/-- Nothing within nodes is larger than the largest of them. -/
theorem Node.Within.exists_sizeOf_le {body : List Node} {n : Node} (h : n.Within body) :
    ∃ m ∈ body, sizeOf n ≤ sizeOf m := by
  induction h with
  | top hn => exact ⟨_, hn, Nat.le_refl _⟩
  | part _ hn ih =>
    obtain ⟨m, hm, hle⟩ := ih
    have hlt := sizeOf_lt_of_mem_children (mem_children_of_mem_parts hn)
    exact ⟨m, hm, by omega⟩

/-- What does not halt leaves the depth of the stack as it was. -/
theorem Course.depth_eq {b : Bridge V W} {s : Subject V} {c c' : Core V W} {ts : List (Turn V W)}
    (h : Course b s c ts none c') : c'.depth = c.depth := by
  obtain ⟨extra, hextra, hg⟩ := h.grown
  obtain rfl := hextra rfl
  rw [depth, depth, hg.below_eq]

/-- **The tests that a course makes in the frame it began in** are those of nodes of its body; all
other turns that test something have frames on top of that one. -/
theorem Course.test_within {b : Bridge V W} {s : Subject V} {c c' : Core V W} {ts : List (Turn V W)}
    {o : Option Halt} (h : Course b s c ts o c') : ∀ t ∈ ts, c.depth ≤ t.core.depth ∧
      ∀ v, t.move = .truthy v → t.core.depth = c.depth →
        ∃ nodes n, s = .body nodes ∧ n.Within nodes ∧ t.core.current = some n := by
  induction h with
  | rest | cut | note | visit | make | unresolved => simp
  | next h₁ _ ih ih' =>
    intro t ht
    rcases List.mem_append.mp ht with ht | ht
    · exact ih t ht
    · rw [← h₁.depth_eq]
      exact ih' t ht
  | assign | define | conflict | tooDeep | arity | has | invoke => simp
  | truthy v hn _ hc =>
    intro t ht
    obtain rfl := List.mem_singleton.mp ht
    exact ⟨Nat.le_refl _, fun _ _ _ => ⟨_, _, rfl, hn, hc⟩⟩
  | call _ _ _ _ ih =>
    intro t ht
    refine ⟨(ih t ht).1, fun v hv hdepth => ?_⟩
    obtain ⟨_, _, hs, -⟩ := (ih t ht).2 v hv hdepth
    cases hs
  | @inside request site _ c _ f _ _ _ _ _ _ ih =>
    -- what a function does, it does one frame further up
    have hdepth : ((c.entered request.name site).bound f.params request.args).depth =
        c.depth + 1 := by simp [depth]
    intro t ht
    rcases List.mem_cons.mp ht with rfl | ht
    · simp
    · have hle := (ih t ht).1
      exact ⟨by omega, fun _ _ _ => by omega⟩
  | @through request site _ c c' f _ _ _ _ hbody ih =>
    have hdepth : ((c.entered request.name site).bound f.params request.args).depth =
        c.depth + 1 := by simp [depth]
    intro t ht
    rcases List.mem_cons.mp ht with rfl | ht
    · simp
    rcases List.mem_append.mp ht with ht | ht
    · have hle := (ih t ht).1
      exact ⟨by omega, fun _ _ _ => by omega⟩
    · obtain rfl := List.mem_singleton.mp ht
      have hlast : c'.depth = _ := hbody.depth_eq
      exact ⟨by simp only; omega, by rintro _ ⟨⟩⟩

/-- **No round of a loop begins inside its parts**, in the frame of the loop. -/
theorem Course.roundsBegun_eq_zero {b : Bridge V W} {nodes : List Node} {c c' : Core V W}
    {ts : List (Turn V W)} {o : Option Halt} {loop : Node} (h : Course b (.body nodes) c ts o c')
    (hparts : ∀ n ∈ nodes, n ∈ loop.parts) : roundsBegun b loop c.depth ts = 0 := by
  refine Treewalk.roundsBegun_eq_zero fun t ht hbegins => ?_
  obtain ⟨v, w, hmove, hcurrent, hdepth, -⟩ := hbegins
  obtain ⟨_, n, hs, hn, hn'⟩ := (h.test_within t ht).2 v hmove hdepth
  cases hs
  obtain rfl : n = loop := Option.some.inj (hn'.symm.trans hcurrent)
  obtain ⟨m, hm, hle⟩ := hn.exists_sizeOf_le
  have hlt := Node.sizeOf_lt_of_mem_children (Node.mem_children_of_mem_parts (hparts m hm))
  omega

/-! ### One round of the evaluator -/

section Evaluation

variable {b : Bridge V W} {place : Place} {test : Node} {body : List Node} {fuel : Nat}
  {c c₁ c₂ : Core V W} {v u : V} {w : W} {truth : Bool}

/-- A condition that fails makes the loop fail. -/
theorem eval_loop_of_test_error {e : Halt} (htest : eval b fuel test c = .error e c₁) :
    eval b (fuel + 1) (.loop place test body) c = .error e c₁ := by
  simp only [eval]
  exact bind_of_error htest

/-- From a condition that has a value the loop goes on to the truth test. -/
theorem eval_loop_of_test (htest : eval b fuel test c = .ok v c₁) :
    eval b (fuel + 1) (.loop place test body) c =
      (do
        if ← ask (b.truthy v) then
          let _ ← exec (eval b fuel) b.nil body
          eval b fuel (.loop place test body)
        else return b.nil : Eval V W V) (c₁.visited (.loop place test body)) := by
  simp only [eval]
  rw [bind_of_ok htest, bind_of_ok (visit_apply _ c₁)]

theorem eval_loop_of_truth_error {f : Fault} (htest : eval b fuel test c = .ok v c₁)
    (htruth : b.truthy v c₁.world = .error f w) :
    eval b (fuel + 1) (.loop place test body) c =
      .error (.fault f) ((c₁.visited (.loop place test body)).inWorld w) :=
  (eval_loop_of_test htest).trans (bind_of_error (ask_of_error htruth))

theorem ask_truthy (htruth : b.truthy v c₁.world = .ok truth w) (n : Node) :
    ask (b.truthy v) (c₁.visited n) = .ok truth ((c₁.visited n).inWorld w) :=
  ask_of_ok htruth

theorem eval_loop_of_false (htest : eval b fuel test c = .ok v c₁)
    (htruth : b.truthy v c₁.world = .ok false w) :
    eval b (fuel + 1) (.loop place test body) c =
      .ok b.nil ((c₁.visited (.loop place test body)).inWorld w) :=
  (eval_loop_of_test htest).trans (bind_of_ok (ask_truthy htruth _))

theorem eval_loop_of_body_error {e : Halt} (htest : eval b fuel test c = .ok v c₁)
    (htruth : b.truthy v c₁.world = .ok true w)
    (hbody : exec (eval b fuel) b.nil body ((c₁.visited (.loop place test body)).inWorld w) =
      .error e c₂) :
    eval b (fuel + 1) (.loop place test body) c = .error e c₂ :=
  (eval_loop_of_test htest).trans ((bind_of_ok (ask_truthy htruth _)).trans (bind_of_error hbody))

theorem eval_loop_of_round (htest : eval b fuel test c = .ok v c₁)
    (htruth : b.truthy v c₁.world = .ok true w)
    (hbody : exec (eval b fuel) b.nil body ((c₁.visited (.loop place test body)).inWorld w) =
      .ok u c₂) :
    eval b (fuel + 1) (.loop place test body) c = eval b fuel (.loop place test body) c₂ :=
  (eval_loop_of_test htest).trans ((bind_of_ok (ask_truthy htruth _)).trans (bind_of_ok hbody))

/-- The condition of a loop begins no round of it, and neither does what comes after it. -/
theorem test_course (place : Place) (body : List Node) (htest : eval b fuel test c = .ok v c₁) :
    c₁.depth = c.depth ∧
      roundsBegun b (.loop place test body) c.depth (turns b fuel test c) = 0 := by
  have hcourse : Course b (.body [test]) c (turns b fuel test c) (haltOf (eval b fuel test c))
      (coreOf (eval b fuel test c)) := eval_follows b fuel [test] test c (.top (by simp))
  rw [htest] at hcourse
  exact ⟨hcourse.depth_eq, hcourse.roundsBegun_eq_zero (by simp [Node.parts])⟩

/-- A test that comes out false begins no round. -/
theorem roundsBegun_of_false (htest : eval b fuel test c = .ok v c₁)
    (htruth : b.truthy v c₁.world = .ok false w) :
    roundsBegun b (.loop place test body) c.depth
      (turns b (fuel + 1) (.loop place test body) c) = 0 := by
  have hask := ask_truthy htruth (.loop place test body)
  simp only [turns, htest, after_ok, hask, Bool.false_eq_true, if_false]
  rw [roundsBegun_append, (test_course place body htest).2, Nat.zero_add]
  refine roundsBegun_eq_zero fun t ht hbegins => ?_
  obtain rfl := List.mem_singleton.mp ht
  obtain ⟨_, _, hmove, -, -, htrue⟩ := hbegins
  cases hmove
  rw [visited_world, htruth] at htrue
  cases htrue

/-- **A round is counted once.** -/
theorem roundsBegun_of_round (htest : eval b fuel test c = .ok v c₁)
    (htruth : b.truthy v c₁.world = .ok true w)
    (hbody : exec (eval b fuel) b.nil body ((c₁.visited (.loop place test body)).inWorld w) =
      .ok u c₂) :
    roundsBegun b (.loop place test body) c.depth
        (turns b (fuel + 1) (.loop place test body) c) =
      roundsBegun b (.loop place test body) c₂.depth
        (turns b fuel (.loop place test body) c₂) + 1 := by
  obtain ⟨hdepth, hnone⟩ := test_course place body htest
  have hask := ask_truthy htruth (.loop place test body)
  have hbegins : Turn.BeginsRound b (.loop place test body) c.depth
      ⟨c₁.visited (.loop place test body), .truthy v⟩ := ⟨v, w, rfl, rfl, hdepth, htruth⟩
  generalize hc : (c₁.visited (.loop place test body)).inWorld w = c' at hbody hask
  have hc' : c'.depth = c.depth := by rw [← hc]; exact hdepth
  have hcourse := exec_follows (eval_follows b fuel body) body b.nil c' fun _ hn => .top hn
  rw [hbody] at hcourse
  have hinner : roundsBegun b (.loop place test body) c'.depth
      (execTurns (eval b fuel) (turns b fuel) body c') = 0 :=
    Course.roundsBegun_eq_zero hcourse fun n hn => by simp [Node.parts, hn]
  have hkept : c₂.depth = c'.depth := Course.depth_eq hcourse
  simp only [turns, htest, after_ok, hask, if_true, hbody]
  rw [roundsBegun_append, hnone, roundsBegun_cons_of_begins hbegins, roundsBegun_append, ← hc',
    hinner, hkept]
  omega

end Evaluation

/-! ### Chains of rounds -/

/-- **A relation holds so many times in a row** between one thing and another. -/
inductive InARow {σ : Type} (R : σ → σ → Prop) : Nat → σ → σ → Prop
  /-- Nothing has happened. -/
  | none (s : σ) : InARow R 0 s s
  /-- Once more, at the beginning. -/
  | first {k : Nat} {s s₁ s' : σ} : R s s₁ → InARow R k s₁ s' → InARow R (k + 1) s s'

/-- What happens in a row goes through a sequence of states. -/
theorem inARow_iff {σ : Type} {R : σ → σ → Prop} {k : Nat} {s s' : σ} :
    InARow R k s s' ↔ ∃ st : Nat → σ, st 0 = s ∧ (∀ i < k, R (st i) (st (i + 1))) ∧ st k = s' := by
  constructor
  · intro h
    induction h with
    | none s => exact ⟨fun _ => s, rfl, by simp, rfl⟩
    | @first k s s₁ s' hR _ ih =>
      obtain ⟨st, rfl, hst, rfl⟩ := ih
      refine ⟨fun i => i.casesOn s st, rfl, fun i hi => ?_, rfl⟩
      cases i with
      | zero => exact hR
      | succ i => exact hst i (by omega)
  · rintro ⟨st, rfl, hst, rfl⟩
    induction k generalizing st with
    | zero => exact .none _
    | succ k ih =>
      exact .first (hst 0 (by omega)) (ih (fun i => st (i + 1)) fun i hi => hst (i + 1) (by omega))

section Loop

variable {b : Bridge V W} {place : Place} {test : Node} {body : List Node}

/-- **A loop that returns has gone round** as often as was counted, and its test has come out false
then. -/
theorem rounds_of_returns {fuel : Nat} {c c' : Core V W} {v : V}
    (h : eval b fuel (.loop place test body) c = .ok v c') :
    v = b.nil ∧ ∃ cₖ, InARow (Round b place test body)
        (roundsBegun b (.loop place test body) c.depth (turns b fuel (.loop place test body) c)) c cₖ ∧
      TestComesOut b place test body false cₖ c' := by
  induction fuel generalizing c with
  | zero => cases h
  | succ fuel ih =>
    cases htest : eval b fuel test c with
    | error e c₁ =>
      rw [eval_loop_of_test_error htest] at h
      cases h
    | ok u c₁ =>
      cases htruth : b.truthy u c₁.world with
      | error f w =>
        rw [eval_loop_of_truth_error htest htruth] at h
        cases h
      | ok truth w =>
        cases truth with
        | false =>
          rw [eval_loop_of_false htest htruth] at h
          cases h
          rw [roundsBegun_of_false htest htruth]
          exact ⟨rfl, c, .none c, u, c₁, w, ⟨fuel, htest⟩, htruth, rfl⟩
        | true =>
          cases hbody : exec (eval b fuel) b.nil body
              ((c₁.visited (.loop place test body)).inWorld w) with
          | error e c₂ =>
            rw [eval_loop_of_body_error htest htruth hbody] at h
            cases h
          | ok last c₂ =>
            rw [eval_loop_of_round htest htruth hbody] at h
            obtain ⟨rfl, cₖ, hrounds, hend⟩ := ih h
            rw [roundsBegun_of_round htest htruth hbody]
            have hround : Round b place test body c c₂ :=
              ⟨_, last, ⟨u, c₁, w, ⟨fuel, htest⟩, htruth, rfl⟩, fuel, hbody⟩
            exact ⟨rfl, cₖ, .first hround hrounds, hend⟩

/-- **A loop that fails has gone round** some times, and then a round has failed. -/
theorem rounds_of_fails {fuel : Nat} {c c' : Core V W} {f : Fault}
    (h : eval b fuel (.loop place test body) c = .error (.fault f) c') :
    ∃ k cₖ, InARow (Round b place test body) k c cₖ ∧ RoundFails b place test body f cₖ c' := by
  induction fuel generalizing c with
  | zero => cases h
  | succ fuel ih =>
    cases htest : eval b fuel test c with
    | error e c₁ =>
      rw [eval_loop_of_test_error htest] at h
      cases h
      exact ⟨0, c, .none c, .condition ⟨fuel, htest⟩⟩
    | ok u c₁ =>
      cases htruth : b.truthy u c₁.world with
      | error f' w =>
        rw [eval_loop_of_truth_error htest htruth] at h
        cases h
        exact ⟨0, c, .none c, .truth ⟨fuel, htest⟩ htruth rfl⟩
      | ok truth w =>
        cases truth with
        | false =>
          rw [eval_loop_of_false htest htruth] at h
          cases h
        | true =>
          have htrue : TestComesOut b place test body true c _ :=
            ⟨u, c₁, w, ⟨fuel, htest⟩, htruth, rfl⟩
          cases hbody : exec (eval b fuel) b.nil body
              ((c₁.visited (.loop place test body)).inWorld w) with
          | error e c₂ =>
            rw [eval_loop_of_body_error htest htruth hbody] at h
            cases h
            exact ⟨0, c, .none c, .body htrue ⟨fuel, hbody⟩⟩
          | ok last c₂ =>
            rw [eval_loop_of_round htest htruth hbody] at h
            obtain ⟨k, cₖ, hrounds, hfails⟩ := ih h
            exact ⟨k + 1, cₖ, .first ⟨_, last, htrue, fuel, hbody⟩ hrounds, hfails⟩

/-- Statements that end with some steps end in the same way with more. -/
theorem exec_of_le {fuel fuel' : Nat} (hle : fuel ≤ fuel') (nodes : List Node) (last : V)
    (c : Core V W) :
    Stands (exec (eval b fuel) last nodes c) (exec (eval b fuel') last nodes c) :=
  exec_stands (eval_stands b hle) nodes last c

/-- **Rounds that lead to a test which comes out false** make the loop return, with that count. -/
theorem returns_of_rounds {k : Nat} {c cₖ c' : Core V W}
    (hrounds : InARow (Round b place test body) k c cₖ)
    (hend : TestComesOut b place test body false cₖ c') :
    ∃ enough, ∀ fuel, enough ≤ fuel →
      eval b fuel (.loop place test body) c = .ok b.nil c' ∧
        roundsBegun b (.loop place test body) c.depth
          (turns b fuel (.loop place test body) c) = k := by
  induction hrounds with
  | none s =>
    obtain ⟨v, c₁, w, ⟨fuel₀, htest⟩, htruth, rfl⟩ := hend
    refine ⟨fuel₀ + 1, fun fuel hfuel => ?_⟩
    obtain ⟨fuel, rfl⟩ : ∃ m, fuel = m + 1 := ⟨fuel - 1, by omega⟩
    have htest := (eval_stands b (by omega : fuel₀ ≤ fuel) test s).of_ok htest
    exact ⟨eval_loop_of_false htest htruth, roundsBegun_of_false htest htruth⟩
  | first hround _ ih =>
    obtain ⟨_, last, ⟨v, c₁, w, ⟨fuel₁, htest⟩, htruth, rfl⟩, fuel₂, hbody⟩ := hround
    obtain ⟨enough, henough⟩ := ih hend
    refine ⟨max enough (max fuel₁ fuel₂) + 1, fun fuel hfuel => ?_⟩
    obtain ⟨fuel, rfl⟩ : ∃ m, fuel = m + 1 := ⟨fuel - 1, by omega⟩
    have htest := (eval_stands b (by omega : fuel₁ ≤ fuel) test _).of_ok htest
    have hbody := (exec_of_le (by omega : fuel₂ ≤ fuel) body b.nil _).of_ok hbody
    obtain ⟨hrest, hcount⟩ := henough fuel (by omega)
    rw [eval_loop_of_round htest htruth hbody, roundsBegun_of_round htest htruth hbody, hcount]
    exact ⟨hrest, rfl⟩

/-- **Rounds that lead to one that fails** make the loop fail. -/
theorem fails_of_rounds {k : Nat} {c cₖ c' : Core V W} {f : Fault}
    (hrounds : InARow (Round b place test body) k c cₖ)
    (hfails : RoundFails b place test body f cₖ c') : Fails b (.loop place test body) c f c' := by
  induction hrounds with
  | none s =>
    rcases hfails with ⟨fuel, htest⟩ | ⟨⟨fuel, htest⟩, htruth, rfl⟩ |
      ⟨⟨v, c₁, w, ⟨fuel₁, htest⟩, htruth, rfl⟩, fuel₂, hbody⟩
    · exact ⟨fuel + 1, eval_loop_of_test_error htest⟩
    · exact ⟨fuel + 1, eval_loop_of_truth_error htest htruth⟩
    · have htest := (eval_stands b (by omega : fuel₁ ≤ max fuel₁ fuel₂) test _).of_ok htest
      have hbody :=
        (exec_of_le (by omega : fuel₂ ≤ max fuel₁ fuel₂) body b.nil _).of_fault hbody
      exact ⟨max fuel₁ fuel₂ + 1, eval_loop_of_body_error htest htruth hbody⟩
  | first hround _ ih =>
    obtain ⟨_, last, ⟨v, c₁, w, ⟨fuel₁, htest⟩, htruth, rfl⟩, fuel₂, hbody⟩ := hround
    obtain ⟨fuel₃, hrest⟩ := ih hfails
    have hle : fuel₁ ≤ max fuel₃ (max fuel₁ fuel₂) ∧ fuel₂ ≤ max fuel₃ (max fuel₁ fuel₂) ∧
        fuel₃ ≤ max fuel₃ (max fuel₁ fuel₂) := by omega
    have htest := (eval_stands b hle.1 test _).of_ok htest
    have hbody := (exec_of_le hle.2.1 body b.nil _).of_ok hbody
    have hrest := (eval_stands b hle.2.2 (.loop place test body) _).of_fault hrest
    exact ⟨_ + 1, (eval_loop_of_round htest htruth hbody).trans hrest⟩

end Loop

/-- **A loop executes its body exactly as often as its condition comes out true.** From any core, a
loop returns after `k` executions of its body if and only if there are cores through which `k`
rounds go, and from the last of which the test comes out false; it returns nil then, in the core
that this test leaves behind, where the loop is the node that is noted. And it fails with a fault if
and only if some rounds lead to a core from which the condition, the truth test or the body fails
with that fault. -/
theorem loop_rounds (b : Bridge V W) (place : Place) (test : Node) (body : List Node)
    (c : Core V W) :
    (∀ k v c', (∃ fuel, eval b fuel (.loop place test body) c = .ok v c' ∧
        roundsBegun b (.loop place test body) c.depth
          (turns b fuel (.loop place test body) c) = k) ↔
      v = b.nil ∧ ∃ st : Nat → Core V W, st 0 = c ∧
        (∀ i < k, Round b place test body (st i) (st (i + 1))) ∧
        TestComesOut b place test body false (st k) c') ∧
    (∀ f c', Fails b (.loop place test body) c f c' ↔
      ∃ (k : Nat) (st : Nat → Core V W), st 0 = c ∧
        (∀ i < k, Round b place test body (st i) (st (i + 1))) ∧
        RoundFails b place test body f (st k) c') := by
  refine ⟨fun k v c' => ⟨?_, ?_⟩, fun f c' => ⟨?_, ?_⟩⟩
  · rintro ⟨fuel, hreturns, rfl⟩
    obtain ⟨hv, cₖ, hrounds, hend⟩ := rounds_of_returns hreturns
    obtain ⟨st, hst, hround, rfl⟩ := inARow_iff.mp hrounds
    exact ⟨hv, st, hst, hround, hend⟩
  · rintro ⟨rfl, st, hst, hround, hend⟩
    obtain ⟨enough, henough⟩ := returns_of_rounds (inARow_iff.mpr ⟨st, hst, hround, rfl⟩) hend
    exact ⟨enough, henough enough (Nat.le_refl _)⟩
  · rintro ⟨fuel, hfails⟩
    obtain ⟨k, cₖ, hrounds, hfailed⟩ := rounds_of_fails hfails
    obtain ⟨st, hst, hround, rfl⟩ := inARow_iff.mp hrounds
    exact ⟨k, st, hst, hround, hfailed⟩
  · rintro ⟨k, st, hst, hround, hfailed⟩
    exact fails_of_rounds (inARow_iff.mpr ⟨st, hst, hround, rfl⟩) hfailed

end Treewalk
