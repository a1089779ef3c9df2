import Treewalk.Core.Bridge
import Treewalk.Program.Node
import Treewalk.Text.Lines

/-!
# The state of an evaluation

A core holds the function table, the stack of frames, the chain of calls that led to the active
frame, the node that is being evaluated, and the state of the surroundings. Frames have no parents:
a variable that is not in the active frame is nowhere.

`Treewalk.Core.enter` and `Treewalk.Core.leave` push and pop frames. A frame is popped only when its
function returns, so a fault leaves the frames on the stack for the report.
-/

namespace Treewalk

/-- One activation of a function: its name and its variables, in the order of their first
binding. -/
structure Frame (V : Type) where
  name : String
  vars : List (String × V)

namespace Frame

variable {V : Type}

/-- Binds a variable in a list of bindings: a bound name keeps its place. -/
def bind (name : String) (value : V) : List (String × V) → List (String × V)
  | [] => [(name, value)]
  | (n, v) :: rest => if n = name then (n, value) :: rest else (n, v) :: bind name value rest

/-- The value of a variable. -/
def get? (f : Frame V) (name : String) : Option V := f.vars.lookup name

/-- The value of a variable, which has to be bound. -/
def fetch (f : Frame V) (name : String) : Except Mishap V :=
  match f.get? name with
  | some v => .ok v
  | none => .error (.missingKey name)

/-- Whether a variable is bound. -/
def has (f : Frame V) (name : String) : Bool := (f.get? name).isSome

/-- Binds a variable. -/
def set (f : Frame V) (name : String) (value : V) : Frame V :=
  { f with vars := bind name value f.vars }

/-- Binds parameters to arguments, in order. -/
def setAll (f : Frame V) (params : List String) (args : List V) : Frame V :=
  (params.zip args).foldl (fun f b => f.set b.1 b.2) f

/-- Whether a name comes before or is another, by code points. -/
def nameOrder (a b : String) : Bool := a ≤ b

/-- The name of a frame and the names of its variables, in alphabetical order. -/
def shown (f : Frame V) : String :=
  "<Frame " ++ f.name ++ " [" ++
    ", ".intercalate (((f.vars.map (·.1)).mergeSort nameOrder).map Text.quote) ++ "]>"

end Frame

/-- An entry of the chain of calls: the function, and the place it was called at. -/
structure CallEntry where
  name : String
  site : Place

/-- A line of the debug trace. -/
inductive TraceLine where
  | define (name : String) (params : List String)
  | enter (name : String) (depth : Nat)
  | leave (name : String) (depth : Nat)
  | user (name : String) (argc : Nat)
  | environment (name : String) (argc : Nat)
  | receiver (name typeName : String) (argc : Nat)
  deriving DecidableEq, Repr

/-- A trace line as a text. -/
def TraceLine.text : TraceLine → String
  | .define name params =>
    "[DBG] define " ++ name ++ " params [" ++ ", ".intercalate (params.map Text.quote) ++ "]"
  | .enter name depth => "[DBG] push " ++ name ++ " depth " ++ toString depth
  | .leave name depth => "[DBG] pop " ++ name ++ " depth " ++ toString depth
  | .user name argc => "[DBG] tier 1 " ++ name ++ " argc " ++ toString argc
  | .environment name argc => "[DBG] tier 2 " ++ name ++ " argc " ++ toString argc
  | .receiver name typeName argc =>
    "[DBG] tier 3 " ++ name ++ " receiver " ++ typeName ++ " argc " ++ toString argc

/-- Whether a trace is written: not at all, to a place that takes it, or to one where every write
fails. -/
inductive Tracing where
  | off
  | on
  | broken
  deriving DecidableEq, Repr

/-- The state of an evaluation. The active frame stands apart from those below it, the innermost
first; so does the chain of calls. Trace lines are kept the last one first. -/
structure Core (V W : Type) where
  maxDepth : Int
  functions : List (String × Function)
  frame : Frame V
  below : List (Frame V)
  calls : List CallEntry
  current : Option Node
  tracing : Tracing
  trace : List TraceLine
  world : W

/-- How an evaluation ends without a value: in a fault, or because the steps it was given are used
up. -/
inductive Halt where
  | fault (f : Fault)
  | outOfFuel

/-- An evaluation. -/
abbrev Eval (V W : Type) := EStateM Halt (Core V W)

/-- The name of the frame that is active when no function is. -/
def toplevelName : String := "(toplevel)"

namespace Core

variable {V W : Type}

/-- The state at the start of a run. -/
def fresh (maxDepth : Int) (tracing : Tracing) (world : W) : Core V W :=
  ⟨maxDepth, [], ⟨toplevelName, []⟩, [], [], none, tracing, [], world⟩

/-- The number of frames on the stack. -/
def depth (c : Core V W) : Nat := c.below.length + 1

/-- The lines that were traced, in order. A name may hold the end of a line. -/
def traceLines (c : Core V W) : List String :=
  (c.trace.reverse.flatMap fun line => Text.splitLines line.text.toList).map String.ofList

/-- The frame at the bottom of the stack. -/
def toplevel (c : Core V W) : Frame V := c.below.getLastD c.frame

/-- Who invokes capabilities now. -/
def activation (c : Core V W) : Activation := ⟨c.frame.name, c.depth⟩

/-- Fails with a cause of the program's own. -/
def raise {α : Type} (cause : Cause) (place : Place) : Eval V W α :=
  throw (.fault (.raise cause place))

/-- Asks the surroundings. -/
def ask {α : Type} (x : Ask W α) : Eval V W α := fun c =>
  match x c.world with
  | .ok a w => .ok a { c with world := w }
  | .error f w => .error (.fault f) { c with world := w }

/-- Lets the surroundings make a value. -/
def make (x : W → V × W) : Eval V W V := fun c =>
  let (v, w) := x c.world
  .ok v { c with world := w }

/-- Adds a line to the trace, if one is written. -/
def note (line : TraceLine) : Eval V W Unit :=
  modify fun c => if c.tracing = .on then { c with trace := line :: c.trace } else c

/-- Notes the node that is being evaluated. -/
def visit (n : Node) : Eval V W Unit := modify fun c => { c with current := some n }

/-- Binds a variable in the active frame. -/
def assign (name : String) (value : V) : Eval V W Unit :=
  modify fun c => { c with frame := c.frame.set name value }

/-- Registers a function under a name, which must be new. -/
def define (name : String) (f : Function) (site : Place) : Eval V W Unit := do
  if ((← get).functions.lookup name).isSome then raise (.conflict name) site
  note (.define name f.params)
  modify fun c => { c with functions := c.functions ++ [(name, f)] }

/-- The function table can be looked at, but it changes only through definitions. -/
def overwrite (_ : String) (_ : Function) : Eval V W Unit :=
  throw (.fault (.host (.type "'mappingproxy' object does not support item assignment")))

/-- Pushes a frame for a function, if there is room. -/
def enter (name : String) (site : Option Place) : Eval V W Unit := do
  let c ← get
  if c.maxDepth ≤ (c.depth : Int) then raise .tooDeep (site.getD .nowhere)
  set { c with
    frame := ⟨name, []⟩
    below := c.frame :: c.below
    calls := ⟨name, site.getD .nowhere⟩ :: c.calls }
  note (.enter name (c.depth + 1))

/-- Pops the active frame. The frame at the bottom stays. -/
def leave : Eval V W Unit := do
  let c ← get
  match c.below with
  | [] => return
  | f :: rest =>
    set { c with frame := f, below := rest, calls := c.calls.tail }
    note (.leave c.frame.name rest.length.succ)

end Core

end Treewalk
