import Treewalk.Document.Format
import Treewalk.Program.Reader
import Treewalk.Runner.Report

/-!
# Running programs

`Treewalk.Program.load` reads a program from its text, and `Treewalk.run` runs it against a bridge:
effects of earlier runs are forgotten, a malformed document is reported, and so is a fault of the
evaluation. Only what goes wrong while a document is read, and is no fault of its format, is passed
on, and so is a failure to write the report.
-/

namespace Treewalk

/-- Reads a program from a text, for a file. -/
def Program.load (file : String) (format : Option String) (source : Source) :
    Except Fault Program := do
  Program.ofDocument file (← Document.read format (some file) source)

/-- What can be run. Something that is neither a text, nor a list of statements, nor a program is
known by its type only; it is found out when it is to be evaluated. -/
inductive Job where
  | source (format : Option String) (text : Source)
  | statements (d : Document)
  | program (p : Program)
  | foreign (typeName : String)

/-- The name of a document's type. -/
def Document.typeName : Document → String
  | .literal .nil => "NoneType"
  | .literal (.bool _) => "bool"
  | .literal (.int _) => "int"
  | .literal (.float _ _) => "float"
  | .str _ => "str"
  | .date _ _ => "date"
  | .moment _ _ => "datetime"
  | .list _ _ => "list"
  | .mapping _ _ => "dict"
  | .back _ _ => "list"

/-- The job to run a document as it is: a list of statements, or a text. -/
def Job.ofDocument : Document → Job
  | .str s => .source none (.text s)
  | .list label items => .statements (.list label items)
  | d => .foreign d.typeName

/-- What a job is about: a program, or something else of the given type. -/
def Job.load (file : String) : Job → Except Fault (Except String Program)
  | .source format text => (Program.load file format text).map .ok
  | .statements d => (Program.ofDocument file d).map .ok
  | .program p => .ok (.ok p)
  | .foreign typeName => .ok (.error typeName)

/-- How a run ends. -/
inductive Ending (V : Type) where
  /-- With a value. -/
  | finished (value : V)
  /-- With a failure that is reported. -/
  | failed (failure : Failure)
  /-- With a fault that is passed on. -/
  | escaped (fault : Fault)
  /-- Before the evaluation was done, since the steps it was given were used up. -/
  | unfinished

/-- The report on how a run ended: empty unless it failed. -/
def Ending.report {V : Type} : Ending V → String
  | .failed f => f.report
  | _ => ""

/-- A run: how it ended, what it put out, the core it left behind, if there was one, and the state
of the surroundings. -/
structure Run (V W : Type) where
  ending : Ending V
  effects : List Effect
  core : Option (Core V W)
  world : W

/-- What programs are run with. -/
structure Runner (V W : Type) where
  bridge : Bridge V W
  file : String
  maxDepth : Int := 64

namespace Runner

variable {V W : Type}

/-- How a run ends that met a fault, at a node and inside the given calls. -/
def ending (fault : Fault) (current : Option Node) (calls : List CallEntry) : Ending V :=
  match fault.failure current calls with
  | .ok f => .failed f
  | .error m => .escaped (.host m)

/-- The evaluation of what a job is about. -/
def evaluation (r : Runner V W) (fuel : Nat) : Except String Program → Eval V W V
  | .ok p => p.eval r.bridge fuel
  | .error typeName => throw (.fault (.host (.noProperty typeName "evaluate")))

/-- Evaluates what a job is about in a fresh core. -/
def evaluate (r : Runner V W) (tracing : Tracing) (fuel : Nat) (p : Except String Program)
    (world : W) : Run V W :=
  let finish (ending : Ending V) (c : Core V W) : Run V W :=
    ⟨ending, r.bridge.effects c.world, some c, c.world⟩
  match r.evaluation fuel p (Core.fresh r.maxDepth tracing world) with
  | .ok v c => finish (.finished v) c
  | .error (.fault f) c => finish (ending f c.current c.calls) c
  | .error .outOfFuel c => finish .unfinished c

/-- Runs a job. -/
def run (r : Runner V W) (tracing : Tracing) (fuel : Nat) (job : Job) (world : W) : Run V W :=
  let world := r.bridge.clear world
  match job.load r.file with
  | .ok p => r.evaluate tracing fuel p world
  | .error (.host m) => ⟨.escaped (.host m), [], none, world⟩
  | .error fault => ⟨ending fault none [], r.bridge.effects world, none, world⟩

end Runner

end Treewalk
