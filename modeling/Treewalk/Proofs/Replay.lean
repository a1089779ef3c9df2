import Treewalk.Proofs.Layout
import Treewalk.Proofs.Stack

/-!
# The trace tells of the stack

Whenever a frame is pushed or popped, the debug trace gets a line with its name and with the depth
of the stack afterwards. These lines are all that is needed to know the stack: whoever keeps a list
of names, adds a name for every push and takes one away for every pop has the names of the frames at
every moment, and finds the depth on every line right, however the evaluation ends. A function that
fails is not popped, and neither is it in the trace. If nothing fails, every push has its pop behind
it, with the same name, and what is between them is closed in the same way.

The lines are read as they are written (`Treewalk.Mark.read?`), from the right, since a name may
hold anything. Nothing else that is traced looks like a push or a pop (`Treewalk.Mark.read?_text`).
A line of the trace is what is written at once: a name with the end of a line in it takes several
lines of the output.

* **`Treewalk.Course.told`**: what is traced along a course.
* **`Treewalk.Core.trace_replays`**: the trace of every operation, read and replayed.
-/

namespace Treewalk

open Treewalk.Core

variable {V W : Type}

/-! ### Reading the trace -/

/-- What a line of the trace says of the stack: which name goes on top or is taken away, and how
deep the stack is then. -/
inductive Mark where
  | push (name : String) (depth : Nat)
  | pop (name : String) (depth : Nat)
  deriving DecidableEq, Repr

/-- What a line of the trace says of the stack, if anything. -/
def TraceLine.mark? : TraceLine → Option Mark
  | .enter name depth => some (.push name depth)
  | .leave name depth => some (.pop name depth)
  | _ => none

/-- Splits a line that ends in a word and a number: what is in front of the word, and the number. -/
def Text.counted? (word line : String) : Option (List Char × Nat) :=
  let back := line.toList.reverse
  (word.toList.reverse.isPrefixOf? (back.dropWhile Char.isDigit)).map fun front =>
    (front.reverse, Nat.ofDigitChars 10 (back.takeWhile Char.isDigit).reverse 0)

/-- Reads a line of the trace. -/
def Mark.read? (line : String) : Option Mark := do
  let (front, depth) ← Text.counted? " depth " line
  match "[DBG] push ".toList.isPrefixOf? front with
  | some name => return .push (String.ofList name) depth
  | none =>
    let name ← "[DBG] pop ".toList.isPrefixOf? front
    return .pop (String.ofList name) depth

/-- What the lines of a trace say of the stack. -/
def marks (lines : List String) : List Mark := lines.filterMap Mark.read?

namespace Text

/-- The digits of a number are told apart from a word in front of them. -/
theorem span_digits (n : Nat) {c : Char} (hc : c.isDigit = false) (front : List Char) :
    ((Nat.toDigits 10 n).reverse ++ c :: front).takeWhile Char.isDigit =
        (Nat.toDigits 10 n).reverse ∧
      ((Nat.toDigits 10 n).reverse ++ c :: front).dropWhile Char.isDigit = c :: front := by
  have hdigits : ∀ d ∈ (Nat.toDigits 10 n).reverse, d.isDigit = true := fun d hd =>
    Nat.isDigit_of_mem_toDigits (by decide) (by decide) (List.mem_reverse.mp hd)
  rw [List.takeWhile_append_of_pos hdigits, List.dropWhile_append_of_pos hdigits,
    List.takeWhile_cons_of_neg (by simp [hc]), List.dropWhile_cons_of_neg (by simp [hc])]
  simp

/-- A line that ends in a number, with a word in front of it that ends in a blank. -/
theorem counted?_append {word word' : String} (rest : List Char)
    (hword' : word'.toList.reverse = ' ' :: rest) (front : String) (n : Nat) :
    counted? word (front ++ word' ++ toString n) =
      (word.toList.reverse.isPrefixOf? (word'.toList.reverse ++ front.toList.reverse)).map
        fun front => (front.reverse, n) := by
  have hback : (front ++ word' ++ toString n).toList.reverse =
      (Nat.toDigits 10 n).reverse ++ ' ' :: (rest ++ front.toList.reverse) := by
    simp [Nat.repr_eq_ofList_toDigits, hword']
  obtain ⟨htake, hdrop⟩ := span_digits n (c := ' ') (by decide) (rest ++ front.toList.reverse)
  simp only [counted?, hback, htake, hdrop, List.reverse_reverse, Nat.ofDigitChars_ten_toDigits,
    hword', List.cons_append]

/-- A depth is found. -/
theorem counted?_depth (front : String) (n : Nat) :
    counted? " depth " (front ++ " depth " ++ toString n) = some (front.toList, n) := by
  have hword : " depth ".toList.reverse.isPrefixOf?
      (" depth ".toList.reverse ++ front.toList.reverse) = some front.toList.reverse :=
    List.isPrefixOf?_eq_some_iff_append_eq.mpr rfl
  rw [counted?_append "htped ".toList (by decide), hword]
  simp

/-- A number of arguments is no depth. -/
theorem counted?_argc (front : String) (n : Nat) :
    counted? " depth " (front ++ " argc " ++ toString n) = none := by
  rw [counted?_append "cgra ".toList (by decide)]
  rfl

/-- Neither is a list of parameters. -/
theorem counted?_bracket (front : String) : counted? " depth " (front ++ "]") = none := by
  have hback : (front ++ "]").toList.reverse = ']' :: front.toList.reverse := by simp
  simp only [counted?, hback]
  rfl

end Text

namespace Mark

/-- A line without a depth says nothing. -/
theorem read?_of_none {line : String} (h : Text.counted? " depth " line = none) :
    read? line = none := by
  simp [read?, h]

theorem read?_push (name : String) (depth : Nat) :
    read? ("[DBG] push " ++ name ++ " depth " ++ toString depth) = some (.push name depth) := by
  have hname : "[DBG] push ".toList.isPrefixOf? ("[DBG] push " ++ name).toList =
      some name.toList :=
    List.isPrefixOf?_eq_some_iff_append_eq.mpr String.toList_append.symm
  simp only [read?, Text.counted?_depth, Option.bind_eq_bind, Option.bind_some, hname,
    String.ofList_toList, Option.pure_def]

theorem read?_pop (name : String) (depth : Nat) :
    read? ("[DBG] pop " ++ name ++ " depth " ++ toString depth) = some (.pop name depth) := by
  have hfront : ("[DBG] pop " ++ name).toList = "[DBG] pop ".toList ++ name.toList :=
    String.toList_append
  have hpush : "[DBG] push ".toList.isPrefixOf? ("[DBG] pop " ++ name).toList = none := by
    rw [hfront]
    rfl
  have hname : "[DBG] pop ".toList.isPrefixOf? ("[DBG] pop " ++ name).toList = some name.toList :=
    List.isPrefixOf?_eq_some_iff_append_eq.mpr hfront.symm
  simp only [read?, Text.counted?_depth, Option.bind_eq_bind, Option.bind_some, hpush, hname,
    String.ofList_toList, Option.pure_def]

/-- **A line is read as what it says of the stack**, and if it says nothing, nothing is read. -/
theorem read?_text (line : TraceLine) : read? line.text = line.mark? := by
  cases line with
  | define name params => exact read?_of_none (Text.counted?_bracket _)
  | enter name depth => exact read?_push name depth
  | leave name depth => exact read?_pop name depth
  | user name argc => exact read?_of_none (Text.counted?_argc _ argc)
  | environment name argc => exact read?_of_none (Text.counted?_argc _ argc)
  | receiver name typeName argc => exact read?_of_none (Text.counted?_argc _ argc)

end Mark

/-- The marks of a trace are read off its lines. -/
theorem marks_text (lines : List TraceLine) :
    marks (lines.map TraceLine.text) = lines.filterMap TraceLine.mark? := by
  rw [marks, List.filterMap_map]
  exact congrArg (lines.filterMap ·) (funext Mark.read?_text)

/-! ### The lines that are written -/

/-- A text without a line boundary is one line. -/
theorem Text.splitLines_of_not {s : List Char} (hne : s ≠ [])
    (hs : ∀ ch ∈ s, isLineBoundary ch = false) : splitLines s = [s] := by
  have hjoin : ['\n'].intercalate (splitLines s) = s := by
    rw [intercalate_splitLines, (Regular.of_not hne hs).relined_eq]
  match hlines : splitLines s with
  | [] =>
    rw [hlines] at hjoin
    exact absurd hjoin.symm hne
  | [line] =>
    rw [hlines] at hjoin
    rw [← hjoin, List.intercalate_singleton]
  | first :: second :: rest =>
    -- two lines would have a newline between them
    rw [hlines] at hjoin
    have hnewline : '\n' ∈ s := by
      rw [← hjoin, List.intercalate_cons_of_ne_nil (List.cons_ne_nil _ _)]
      simp
    exact absurd (hs '\n' hnewline) (by decide)

/-- A line of the trace is plain if no name in it makes several lines of it. -/
def TraceLine.IsPlain (line : TraceLine) : Prop :=
  ∀ ch ∈ line.text.toList, Text.isLineBoundary ch = false

theorem TraceLine.IsPlain.splitLines_text {line : TraceLine} (h : line.IsPlain) :
    Text.splitLines line.text.toList = [line.text.toList] := by
  have hne : line.text.toList ≠ [] := by
    unfold TraceLine.text
    cases line <;> simp
  exact Text.splitLines_of_not hne h

/-! ### Replaying the trace -/

/-- **One mark is replayed** on a list of names, the last one first. A name that is taken away has
to be on top, and the depth has to be that of the list. -/
def Mark.replay : List String → Mark → Option (List String)
  | names, .push name depth => if depth = names.length + 1 then some (name :: names) else none
  | top :: names, .pop name depth =>
    if top = name ∧ depth = names.length then some names else none
  | [], .pop _ _ => none

/-- Marks are replayed in order, unless one of them does not fit. -/
def replay (names : List String) (ms : List Mark) : Option (List String) :=
  ms.foldlM Mark.replay names

/-- **Marks are bracketed**: every push has its pop behind it, with the same name and one frame
less, and so have those in between; and no pop is left over. -/
inductive Bracketed : List Mark → Prop
  | nil : Bracketed []
  | around {ms ms' : List Mark} (name : String) (depth : Nat) : Bracketed ms → Bracketed ms' →
      Bracketed (.push name (depth + 1) :: (ms ++ .pop name depth :: ms'))

theorem Bracketed.append {ms ms' : List Mark} (h : Bracketed ms) (h' : Bracketed ms') :
    Bracketed (ms ++ ms') := by
  induction h with
  | nil => exact h'
  | around name depth hms _ _ ih =>
    rw [List.cons_append, List.append_assoc, List.cons_append]
    exact .around name depth hms ih

theorem replay_cons (names : List String) (m : Mark) (ms : List Mark) :
    replay names (m :: ms) = (Mark.replay names m).bind (replay · ms) := rfl

theorem replay_singleton (names : List String) (m : Mark) :
    replay names [m] = Mark.replay names m :=
  Option.bind_fun_some _

theorem replay_append (names : List String) (ms ms' : List Mark) :
    replay names (ms ++ ms') = (replay names ms).bind (replay · ms') :=
  List.foldlM_append

theorem Mark.replay_push (names : List String) (name : String) :
    Mark.replay names (.push name (names.length + 1)) = some (name :: names) := if_pos rfl

theorem Mark.replay_pop (names : List String) (name : String) :
    Mark.replay (name :: names) (.pop name names.length) = some names := if_pos ⟨rfl, rfl⟩

/-- **Marks that are bracketed leave the names as they were**, if they fit. -/
theorem Bracketed.replay_eq {ms : List Mark} (h : Bracketed ms) :
    ∀ {names names' : List String}, replay names ms = some names' → names' = names := by
  induction h with
  | nil => exact fun hms => (Option.some.inj hms).symm
  | around name depth _ _ ih ih' =>
    intro names names' hms
    rw [replay_cons] at hms
    obtain ⟨inner, hpush, hbody⟩ := Option.bind_eq_some_iff.mp hms
    rw [replay_append] at hbody
    obtain ⟨inner', hinner, hclose⟩ := Option.bind_eq_some_iff.mp hbody
    obtain rfl := ih hinner
    rw [replay_cons] at hclose
    obtain ⟨outer, hpop, hrest⟩ := Option.bind_eq_some_iff.mp hclose
    -- the name that is taken away is the one that was added
    simp only [Mark.replay, Option.ite_none_right_eq_some] at hpush
    obtain ⟨-, ⟨⟩⟩ := hpush
    simp only [Mark.replay, Option.ite_none_right_eq_some] at hpop
    obtain ⟨-, ⟨⟩⟩ := hpop
    exact ih' hrest

/-- The names of the frames, that of the active one first. -/
def Core.frameNames (c : Core V W) : List String := c.stack.map Frame.name

/-- **What is traced from one core to another**, when a trace is written: the lines, whose marks
take the names of the frames before to those after. -/
structure Core.Retraced (c : Core V W) (lines : List TraceLine) (c' : Core V W) : Prop where
  tracing_eq : c'.tracing = .on
  trace_eq : c'.trace = lines.reverse ++ c.trace
  replay_eq : replay c.frameNames (lines.filterMap TraceLine.mark?) = some c'.frameNames

namespace Core

variable {c c' c'' : Core V W} {lines lines' : List TraceLine}

theorem length_frameNames (c : Core V W) : c.frameNames.length = c.depth := by
  simp [frameNames, stack, depth]

theorem frameNames_entered (c : Core V W) (name : String) (site : Option Place) :
    (c.entered name site).frameNames = name :: c.frameNames := by
  simp [frameNames, stack]

theorem frameNames_bound (c : Core V W) (params : List String) (args : List V) :
    (c.bound params args).frameNames = c.frameNames := by
  have hname := (Frame.Extends.setAll c.frame params args).name_eq
  simp [frameNames, stack, hname]

namespace Retraced

/-- Nothing is traced, and the frames have the names that they had. -/
theorem of_eq (hc : c.tracing = .on) (htracing : c'.tracing = c.tracing)
    (htrace : c'.trace = c.trace) (hnames : c'.frameNames = c.frameNames) : Retraced c [] c' :=
  ⟨htracing.trans hc, htrace, congrArg some hnames.symm⟩

/-- **One stretch after another.** -/
theorem append (h : Retraced c lines c') (h' : Retraced c' lines' c'') :
    Retraced c (lines ++ lines') c'' where
  tracing_eq := h'.tracing_eq
  trace_eq := by simp [h'.trace_eq, h.trace_eq]
  replay_eq := by
    rw [List.filterMap_append, replay_append, h.replay_eq, Option.bind_some, h'.replay_eq]

/-- What is bracketed leaves the names as they were. -/
theorem frameNames_eq (h : Retraced c lines c')
    (hlines : Bracketed (lines.filterMap TraceLine.mark?)) : c'.frameNames = c.frameNames :=
  hlines.replay_eq h.replay_eq

/-- A line is traced that says nothing of the stack. -/
theorem noted (hc : c.tracing = .on) {line : TraceLine} (hline : line.mark? = none) :
    Retraced c [line] (c.noted line) := by
  have hnoted : c.noted line = { c with trace := line :: c.trace } := if_pos hc
  rw [hnoted]
  refine ⟨hc, rfl, ?_⟩
  simp only [List.filterMap_cons, hline]
  rfl

/-- A function is registered. -/
theorem defined (hc : c.tracing = .on) (name : String) (f : Function) :
    Retraced c [.define name f.params] (c.defined name f) :=
  have hnoted : Retraced c _ (c.noted (.define name f.params)) := noted hc rfl
  ⟨hnoted.tracing_eq, hnoted.trace_eq, hnoted.replay_eq⟩

/-- A question is asked. -/
theorem asked {α : Type} (hc : c.tracing = .on) (x : Ask W α) :
    Retraced c [] (coreOf (ask x c)) := by
  rw [coreOf_ask]
  exact of_eq hc rfl rfl rfl

/-- Parameters are bound, and the active frame has the name that it had. -/
theorem bound (hc : c.tracing = .on) (params : List String) (args : List V) :
    Retraced c [] (c.bound params args) :=
  of_eq hc rfl rfl (frameNames_bound c params args)

/-- A frame is pushed. -/
theorem entered (hc : c.tracing = .on) (name : String) (site : Option Place) :
    Retraced c [.enter name (c.depth + 1)] (c.entered name site) := by
  have hentered : c.entered name site =
      { c.pushed name site with trace := .enter name (c.depth + 1) :: c.trace } := if_pos hc
  rw [hentered]
  refine ⟨hc, rfl, ?_⟩
  rw [← length_frameNames]
  exact (replay_singleton _ _).trans (Mark.replay_push c.frameNames name)

/-- The frame on top of those that a core has is popped. -/
theorem left (hc : c'.tracing = .on) {name : String}
    (hnames : c'.frameNames = name :: c.frameNames) :
    Retraced c' [.leave name c.depth] c'.left := by
  cases hbelow : c'.below with
  | nil => simp [frameNames, stack, hbelow] at hnames
  | cons f rest =>
    have hbelow_names : (f :: rest).map Frame.name = c.frameNames := by
      simpa [frameNames, stack, hbelow] using (List.cons.inj hnames).2
    have hname : c'.frame.name = name := (List.cons.inj hnames).1
    have hdepth : rest.length + 1 = c.depth := by
      simpa [length_frameNames] using congrArg List.length hbelow_names
    have hleft : c'.left = { c' with
        frame := f, below := rest, calls := c'.calls.tail,
        trace := .leave name c.depth :: c'.trace } := by
      simp only [Core.left, hbelow, hname, ← hdepth]
      exact if_pos hc
    have hleft_names : c'.left.frameNames = c.frameNames := by
      rw [← hbelow_names, hleft]
      rfl
    refine ⟨by rw [hleft, hc], by rw [hleft]; rfl, ?_⟩
    rw [hnames, hleft_names, ← length_frameNames]
    exact (replay_singleton _ _).trans (Mark.replay_pop c.frameNames name)

end Retraced

end Core

/-! ### Along a course -/

/-- **The trace tells of the stack** from one core to another: something was traced that takes the
frames there, and it is bracketed unless there was a halt. -/
def Core.Told (c : Core V W) (o : Option Halt) (c' : Core V W) : Prop :=
  ∃ lines, Retraced c lines c' ∧ (o = none → Bracketed (lines.filterMap TraceLine.mark?))

/-- What says nothing of the stack is bracketed. -/
theorem Core.Retraced.told {c c' : Core V W} {lines : List TraceLine} (h : Retraced c lines c')
    (hlines : lines.filterMap TraceLine.mark? = []) (o : Option Halt) : c.Told o c' :=
  ⟨lines, h, fun _ => hlines ▸ .nil⟩

/-- Nothing is traced, and the frames have the names that they had. -/
theorem Core.Told.of_eq {c c' : Core V W} {o : Option Halt} (hc : c.tracing = .on)
    (htracing : c'.tracing = c.tracing) (htrace : c'.trace = c.trace)
    (hnames : c'.frameNames = c.frameNames) : c.Told o c' :=
  (Retraced.of_eq hc htracing htrace hnames).told rfl o

/-- **Along a course** the trace tells of the stack. -/
theorem Course.told {b : Bridge V W} {s : Subject V} {c c' : Core V W} {ts : List (Turn V W)}
    {o : Option Halt} (h : Course b s c ts o c') (hc : c.tracing = .on) : c.Told o c' := by
  induction h with
  | rest | cut | visit | make | assign | conflict | unresolved | tooDeep =>
    exact .of_eq hc rfl rfl rfl
  | truthy | has | invoke => exact (Retraced.asked hc _).told rfl _
  | next _ _ ih ih' =>
    obtain ⟨lines, hlines, hbracketed⟩ := ih hc
    obtain ⟨lines', hlines', hbracketed'⟩ := ih' hlines.tracing_eq
    refine ⟨lines ++ lines', hlines.append hlines', fun ho => ?_⟩
    rw [List.filterMap_append]
    exact (hbracketed rfl).append (hbracketed' ho)
  | note line hline =>
    have hmark : line.mark? = none := by
      cases line with
      | enter name depth => exact absurd rfl (hline name depth).1
      | leave name depth => exact absurd rfl (hline name depth).2
      | _ => rfl
    exact (Retraced.noted hc hmark).told (List.filterMap_cons_none hmark) _
  | define => exact (Retraced.defined hc _ _).told rfl _
  | call _ _ _ _ ih =>
    obtain ⟨lines, hlines, hbracketed⟩ := ih hc
    exact ⟨lines, hlines, fun ho => hbracketed (Option.map_eq_none_iff.mp ho)⟩
  | arity => exact ⟨_, .entered hc _ _, nofun⟩
  | @inside request site _ c c' f _ _ _ _ _ _ ih =>
    have hentered := Retraced.entered hc request.name site
    have hbound := hentered.append (.bound hentered.tracing_eq f.params request.args)
    obtain ⟨lines, hlines, -⟩ := ih hbound.tracing_eq
    exact ⟨_, hbound.append hlines, nofun⟩
  | @through request site _ c c' f _ _ _ _ _ ih =>
    have hentered := Retraced.entered hc request.name site
    have hbound := hentered.append (.bound hentered.tracing_eq f.params request.args)
    obtain ⟨lines, hlines, hbracketed⟩ := ih hbound.tracing_eq
    -- the body has popped what it pushed, so its own frame is on top again
    have hnames : c'.frameNames = request.name :: c.frameNames := by
      rw [hlines.frameNames_eq (hbracketed rfl), frameNames_bound, frameNames_entered]
    refine ⟨_, (hbound.append hlines).append (.left hlines.tracing_eq hnames), fun _ => ?_⟩
    simpa [TraceLine.mark?] using
      Bracketed.around request.name c.depth (hbracketed rfl) .nil

/-! ### Operations -/

/-- A value is only wrapped. -/
theorem Core.coreOf_bindPure {α β : Type} (x : Eval V W α) (f : α → β) (c : Core V W) :
    coreOf ((x >>= fun a => pure (f a)) c) = coreOf (x c) := by
  cases h : x c with
  | ok a c' =>
    rw [bind_of_ok h]
    rfl
  | error e c' =>
    rw [bind_of_error h]
    rfl

/-- The second and the third tier, taken alone, trace a line that says nothing of the stack. -/
theorem offer_told {b : Bridge V W} {line : W → TraceLine} {name : String} {target : V}
    {args : List V} {c : Core V W} (hc : c.tracing = .on) (hline : ∀ w, (line w).mark? = none)
    (o : Option Halt) : c.Told o (coreOf (offer b line target name args c)) := by
  have hworld (w : W) : Retraced c [] (c.inWorld w) := .of_eq hc rfl rfl rfl
  cases hb : b.has target name c.world with
  | error fault w =>
    rw [offer_of_error hb]
    exact (hworld w).told rfl o
  | ok known w =>
    cases known with
    | false =>
      rw [offer_of_not hb]
      exact (hworld w).told rfl o
    | true =>
      rw [offer_of_has hb, coreOf_bindPure]
      have hnoted := (hworld w).append (.noted (hworld w).tracing_eq (hline w))
      refine (hnoted.append (.asked hnoted.tracing_eq _)).told ?_ o
      simp [hline]

/-- **The trace tells of the stack**, whatever is done. -/
theorem Action.told (b : Bridge V W) (fuel : Nat) (a : Action V) {c : Core V W}
    (hc : c.tracing = .on) :
    c.Told (haltOf (a.perform b fuel c)) (coreOf (a.perform b fuel c)) := by
  have heval := eval_follows b fuel
  cases a with
  | eval n => exact (heval [n] n c (.top (by simp))).bindPure.told hc
  | run p => exact (p.eval_follows b fuel c).bindPure.told hc
  | call request site => exact (call_follows heval).bindPure.told hc
  | resolve request site => exact (resolve_follows heval).told hc
  | callFunction request site => exact (callFunction_follows heval).told hc
  | callEnvironment request =>
    simp only [perform, callEnvironment_eq_offer]
    exact offer_told hc (fun _ => rfl) _
  | callReceiver request =>
    obtain ⟨name, args⟩ := request
    cases args with
    | nil => exact .of_eq hc rfl rfl rfl
    | cons target rest =>
      simp only [perform, callReceiver_eq_offer]
      exact offer_told hc (fun _ => rfl) _
  | define name f site =>
    simp only [perform]
    cases hf : c.functions.lookup name with
    | none =>
      rw [bind_of_ok (define_of_new hf)]
      exact (Retraced.defined hc name f).told rfl _
    | some g =>
      rw [bind_of_error (define_of_known (by simp [hf]))]
      exact .of_eq hc rfl rfl rfl
  | assign name value => exact .of_eq hc rfl rfl rfl

namespace Core

/-- Plain lines are written as they are. -/
theorem traceLines_of_plain {c c' : Core V W} {lines : List TraceLine}
    (h : c'.trace = lines.reverse ++ c.trace) (hlines : ∀ line ∈ lines, line.IsPlain) :
    c'.traceLines = c.traceLines ++ lines.map TraceLine.text := by
  have hplain : lines.flatMap (fun line => Text.splitLines line.text.toList) =
      lines.map fun line => line.text.toList := by
    rw [List.map_eq_flatMap]
    exact List.flatMap_congr fun line hline => (hlines line hline).splitLines_text
  simp [traceLines, h, hplain, Function.comp_def]

/-- **The trace replays to the stack.** With a trace that is written, whatever is done in whatever
core, and however it ends: lines are added to the trace, and what they say of pushes and pops, read
off their texts, can be replayed on the names of the frames from the beginning to the end. Every
name that is popped is on top, every depth is that of the names at that line, and in the end the
names are those of the frames. If nothing halts, every push is closed by its pop. Lines without line
boundaries are written as they are. -/
theorem trace_replays {c : Core V W} (hc : c.tracing = .on) (b : Bridge V W) (fuel : Nat)
    (a : Action V) : ∃ lines : List TraceLine,
      (coreOf (a.perform b fuel c)).trace = lines.reverse ++ c.trace ∧
      replay c.frameNames (marks (lines.map TraceLine.text)) =
        some (coreOf (a.perform b fuel c)).frameNames ∧
      (haltOf (a.perform b fuel c) = none → Bracketed (marks (lines.map TraceLine.text))) ∧
      ((∀ line ∈ lines, line.IsPlain) → (coreOf (a.perform b fuel c)).traceLines =
        c.traceLines ++ lines.map TraceLine.text) := by
  obtain ⟨lines, hlines, hbracketed⟩ := a.told b fuel hc
  rw [← marks_text] at hbracketed
  exact ⟨lines, hlines.trace_eq, (marks_text lines).symm ▸ hlines.replay_eq, hbracketed,
    traceLines_of_plain hlines.trace_eq⟩

/-- A program that calls a function that returns, and from another one a function nobody knows. -/
def halfwayProgram : Program :=
  ⟨"-", [
    .define .nowhere "f" [] [],
    .define .nowhere "g" [] [.call .nowhere "f" [], .call .nowhere "unknown" []],
    .call .nowhere "f" [],
    .call .nowhere "g" []]⟩

/-- A core that is about to trace something. -/
def tracingCore : Core Value World := Core.fresh 64 .on (World.start .standard "")

/-- The frame that was not popped is on the list in the end. -/
theorem trace_replays_of_tracingCore : ∃ lines : List TraceLine,
    marks (lines.map TraceLine.text) =
        [.push "f" 2, .pop "f" 1, .push "g" 2, .push "f" 3, .pop "f" 2] ∧
      replay [toplevelName] (marks (lines.map TraceLine.text)) = some ["g", toplevelName] := by
  obtain ⟨lines, htrace, hreplay, -⟩ :=
    trace_replays (c := tracingCore) rfl Bridges.reflective 8 (.run halfwayProgram)
  have hlines : lines = (coreOf ((Action.run halfwayProgram).perform Bridges.reflective 8
      tracingCore)).trace.reverse := by
    have hnothing : tracingCore.trace = [] := rfl
    rw [htrace, hnothing, List.append_nil, List.reverse_reverse]
  refine ⟨lines, ?_, hreplay.trans ?_⟩
  · rw [hlines]
    decide +kernel
  · decide +kernel

end Core

end Treewalk
