import Treewalk.Proofs.Mirror

/-!
# Two evaluations in lockstep

Two evaluations of one node that agree in what the evaluator looks at – the active frame, the
function table, the room on the stack, and what the surroundings answer – go abreast. They make the
same moves, end in the same way, and with the same value.

What two cores have to agree in is left open. A relation between cores that every step of the
evaluator keeps is a `Treewalk.Lockstep`, and **`Treewalk.Lockstep.eval`** says that the evaluator
keeps it too. The two sides may have different surroundings, and different bridges to them, as long
as these give the same answers. This is a mirror in which every value is its own image
(`Treewalk.Lockstep.mirror`).

A frame that is popped uncovers another one, about which the relation between the cores before need
not say anything. But where a function returns, that is the frame it was called from; this is the
discipline of the stack, and `Treewalk.Lockstep.left` may rely on it.
-/

namespace Treewalk

open Treewalk.Core

variable {V W W' α β : Type}

/-! ### Results that are alike -/

/-- **Two results are alike**: both are the same value or both the same halt, and the cores are
related. -/
inductive Alike (R : Core V W → Core V W' → Prop) :
    EStateM.Result Halt (Core V W) α → EStateM.Result Halt (Core V W') α → Prop
  /-- Both are a value. -/
  | ok {a : α} {c : Core V W} {d : Core V W'} : R c d → Alike R (.ok a c) (.ok a d)
  /-- Both are a halt. -/
  | error {h : Halt} {c : Core V W} {d : Core V W'} : R c d → Alike R (.error h c) (.error h d)

/-- **Two computations have gone abreast**: they made the same moves from related cores, and their
results are alike. -/
structure Abreast (R : Core V W → Core V W' → Prop) (ts : List (Turn V W))
    (r : EStateM.Result Halt (Core V W) α) (ts' : List (Turn V W'))
    (r' : EStateM.Result Halt (Core V W') α) : Prop where
  turns : List.Forall₂ (fun t t' => t.move = t'.move ∧ R t.core t'.core) ts ts'
  result : Alike R r r'

namespace Abreast

variable {R : Core V W → Core V W' → Prop} {ts : List (Turn V W)} {ts' : List (Turn V W')}
  {c : Core V W} {d : Core V W'} {x : Eval V W α} {x' : Eval V W' α} {f : α → Eval V W β}
  {f' : α → Eval V W' β}

theorem of_quiet {r : EStateM.Result Halt (Core V W) α} {r' : EStateM.Result Halt (Core V W') α}
    (h : Alike R r r') : Abreast R [] r [] r' :=
  ⟨.nil, h⟩

theorem pure (a : α) (hc : R c d) : Abreast R [] (.ok a c) [] (.ok a d) := of_quiet (.ok hc)

/-- **One computation after another**, on both sides. -/
theorem bind {next : α → Core V W → List (Turn V W)} {next' : α → Core V W' → List (Turn V W')}
    (hx : Abreast R ts (x c) ts' (x' d))
    (hf : ∀ a c₁ d₁, x c = .ok a c₁ → x' d = .ok a d₁ → R c₁ d₁ →
      Abreast R (next a c₁) (f a c₁) (next' a d₁) (f' a d₁)) :
    Abreast R (ts ++ after (x c) next) ((x >>= f) c) (ts' ++ after (x' d) next')
      ((x' >>= f') d) := by
  obtain ⟨hturns, hresult⟩ := hx
  generalize hr : x c = r at hresult
  generalize hr' : x' d = r' at hresult
  cases hresult with
  | @ok a c₁ d₁ hR =>
    have h := hf a c₁ d₁ hr hr' hR
    rw [bind_of_ok hr, bind_of_ok hr']
    exact ⟨List.rel_append hturns h.turns, h.result⟩
  | error hR =>
    rw [bind_of_error hr, bind_of_error hr']
    exact ⟨by simpa using hturns, .error hR⟩

/-- What comes last and makes no turns can be put behind. -/
theorem bindLast (hx : Abreast R ts (x c) ts' (x' d))
    (hf : ∀ a c₁ d₁, x c = .ok a c₁ → x' d = .ok a d₁ → R c₁ d₁ → Alike R (f a c₁) (f' a d₁)) :
    Abreast R ts ((x >>= f) c) ts' ((x' >>= f') d) := by
  have h : Abreast R (ts ++ after (x c) fun _ _ => []) ((x >>= f) c)
      (ts' ++ after (x' d) fun _ _ => []) ((x' >>= f') d) :=
    hx.bind fun a c₁ d₁ hc hd hR => of_quiet (hf a c₁ d₁ hc hd hR)
  simpa only [after_nil, List.append_nil] using h

end Abreast

/-! ### What has to be kept -/

/-- **What a call of a function keeps**, when cores are related by `Q` around it and by `R` while
the body is carried out. -/
structure CallStep (R Q : Core V W → Core V W' → Prop) : Prop where
  weaken {c : Core V W} {d : Core V W'} : R c d → Q c d
  functions_eq {c : Core V W} {d : Core V W'} : Q c d → d.functions = c.functions
  full_iff {c : Core V W} {d : Core V W'} :
    Q c d → (d.maxDepth ≤ (d.depth : Int) ↔ c.maxDepth ≤ (c.depth : Int))
  noted {c : Core V W} {d : Core V W'} (line line' : TraceLine) :
    Q c d → Q (c.noted line) (d.noted line')
  entered {c : Core V W} {d : Core V W'} (name : String) (site : Option Place) :
    Q c d → R (c.entered name site) (d.entered name site)
  left {c c' : Core V W} {d d' : Core V W'} : Q c d → R c' d' → c'.below = c.frame :: c.below →
    d'.below = d.frame :: d.below → Q c'.left d'.left

/-- **Two bridges and a relation between cores that every step keeps.** Related cores agree in what
the evaluator looks at, and every step leads from related cores to related ones. -/
structure Lockstep (b : Bridge V W) (b' : Bridge V W') (R : Core V W → Core V W' → Prop) : Prop
    extends CallStep R R where
  nil_eq : b'.nil = b.nil
  literal_eq : b'.literal = b.literal
  environment_eq : b'.environment = b.environment
  frame_eq {c : Core V W} {d : Core V W'} : R c d → d.frame = c.frame
  visited {c : Core V W} {d : Core V W'} (n : Node) : R c d → R (c.visited n) (d.visited n)
  assigned {c : Core V W} {d : Core V W'} (name : String) (v : V) :
    R c d → R (c.assigned name v) (d.assigned name v)
  bound {c : Core V W} {d : Core V W'} (params : List String) (args : List V) :
    R c d → R (c.bound params args) (d.bound params args)
  defined {c : Core V W} {d : Core V W'} (name : String) (f : Function) :
    R c d → R (c.defined name f) (d.defined name f)
  text {c : Core V W} {d : Core V W'} (s : String) :
    R c d → Alike R (make (b.text s) c) (make (b'.text s) d)
  has {c : Core V W} {d : Core V W'} (target : V) (name : String) :
    R c d → Alike R (ask (b.has target name) c) (ask (b'.has target name) d)
  invoke {c : Core V W} {d : Core V W'} (target : V) (name : String) (args : List V) :
    R c d → Alike R (ask (b.invoke c.activation target name args) c)
      (ask (b'.invoke d.activation target name args) d)
  truthy {c : Core V W} {d : Core V W'} (v : V) :
    R c d → Alike R (ask (b.truthy v) c) (ask (b'.truthy v) d)

/-! ### Lockstep as a mirror

Where both sides have the same values, going abreast is being the image of one another under the
identity. So what the evaluator does in lockstep is what it does in a mirror. -/

theorem Request.map_id (r : Request V) : r.map id = r := by
  rw [Request.map, List.map_id]

theorem Frame.map_id (f : Frame V) : f.map id = f := by
  rw [Frame.map]
  exact congrArg (Frame.mk f.name) (List.map_id _)

theorem Move.map_id (m : Move V) : m.map id = m := by
  cases m <;> simp [Move.map, Request.map_id]

section Images

variable {R Q : Core V W → Core V W' → Prop}

theorem Image.alike {r : EStateM.Result Halt (Core V W) α} {r' : EStateM.Result Halt (Core V W') α}
    (h : Image id R r r') : Alike R r r' := by
  cases h with
  | ok hR => exact .ok hR
  | error hR => exact .error hR

theorem Alike.image {r : EStateM.Result Halt (Core V W) α} {r' : EStateM.Result Halt (Core V W') α}
    (h : Alike R r r') : Image id R r r' := by
  cases h with
  | ok hR => exact .ok hR
  | error hR => exact .error hR

variable {ts : List (Turn V W)} {ts' : List (Turn V W')} {r : EStateM.Result Halt (Core V W) α}
  {r' : EStateM.Result Halt (Core V W') α}

/-- What is mirrored under the identity has gone abreast. -/
theorem Abreast.of_mirrors (h : Mirrors True id id R ts r ts' r') : Abreast R ts r ts' r' := by
  obtain ⟨hturns, hresult⟩ := h fun _ _ _ => trivial
  refine ⟨hturns.imp fun t t' ht => ⟨?_, ht.2⟩, hresult.alike⟩
  rw [ht.1, Move.map_id]

theorem Abreast.mirrors (h : Abreast R ts r ts' r') : Mirrors True id id R ts r ts' r' := by
  intro _
  refine ⟨h.turns.imp fun t t' ht => ⟨?_, ht.2⟩, h.result.image⟩
  rw [ht.1, Move.map_id]

theorem CallStep.mirror (h : CallStep R Q) : Mirror.CallStep True R Q where
  weaken := h.weaken
  functions_eq := h.functions_eq
  room hc hroom := fun hfull => hroom ((h.full_iff hc).mp hfull)
  full _ hc := (h.full_iff hc).mpr
  noted := h.noted
  entered := h.entered
  left := h.left

end Images

namespace Lockstep

variable {b : Bridge V W} {b' : Bridge V W'} {R Q : Core V W → Core V W' → Prop} {fuel : Nat}
  {c : Core V W} {d : Core V W'}

theorem mirror (hl : Lockstep b b' R) : Mirror True id b b' R where
  toCallStep := hl.toCallStep.mirror
  nil_eq := hl.nil_eq
  literal_eq l := congrFun hl.literal_eq l
  environment_eq := hl.environment_eq
  frame_eq hc := (hl.frame_eq hc).trans (Frame.map_id _).symm
  visited := hl.visited
  assigned := hl.assigned
  bound params args hc := by
    rw [List.map_id]
    exact hl.bound params args hc
  defined := hl.defined
  text s hc := (hl.text s hc).image
  has target name hc := (hl.has target name hc).image
  invoke target name args hc := by
    rw [List.map_id]
    exact (hl.invoke target name args hc).image
  truthy v hc := (hl.truthy v hc).image

/-- **The first tier keeps step**, if the evaluator does. -/
theorem callFunction (hl : Lockstep b b' R)
    (ih : ∀ (n : Node) (c : Core V W) (d : Core V W'), R c d →
      Abreast R (turns b fuel n c) (Treewalk.eval b fuel n c) (turns b' fuel n d)
        (Treewalk.eval b' fuel n d))
    (hq : CallStep R Q) (request : Request V) (site : Option Place) (hc : Q c d) :
    Abreast Q (functionTurns b (Treewalk.eval b fuel) (turns b fuel) request site c)
      (Core.callFunction b (Treewalk.eval b fuel) request.name request.args site c)
      (functionTurns b' (Treewalk.eval b' fuel) (turns b' fuel) request site d)
      (Core.callFunction b' (Treewalk.eval b' fuel) request.name request.args site d) := by
  have h := Mirror.callFunction hl.mirror (fun n c d hc => (ih n c d hc).mirrors) hq.mirror request
    site hc
  rw [Request.map_id, List.map_id, Option.map_id] at h
  exact .of_mirrors h

/-- **The evaluator keeps step.** -/
theorem eval (hl : Lockstep b b' R) (fuel : Nat) (n : Node) (c : Core V W) (d : Core V W')
    (hc : R c d) : Abreast R (turns b fuel n c) (Treewalk.eval b fuel n c) (turns b' fuel n d)
      (Treewalk.eval b' fuel n d) :=
  .of_mirrors (hl.mirror.eval fuel n c d hc)

/-- A program keeps step too. -/
theorem program (hl : Lockstep b b' R) (fuel : Nat) (p : Program) (hc : R c d) :
    Abreast R (p.turns b fuel c) (p.eval b fuel c) (p.turns b' fuel d) (p.eval b' fuel d) :=
  .of_mirrors (hl.mirror.program fuel p hc)

end Lockstep

end Treewalk
