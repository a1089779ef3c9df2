import Treewalk.Runner.Basic
import Treewalk.Runner.Folder

/-!
# Sessions

One runner runs many programs, one after another and in the same surroundings. An `Treewalk.Errand`
is what it is asked for: to run a job, or the program in a file. A file that is run gives the runner
its name, also when it cannot be read.
-/

namespace Treewalk

/-- What is to be run: a job, or the program in one of the files that there are at the time. -/
inductive Task where
  | job (job : Job)
  | file (folder : Folder) (path : String) (format : Option String)

namespace Task

/-- The name that a task gives to a runner, which has one already. -/
def fileName (file : String) : Task → String
  | .job _ => file
  | .file _ path _ => path

/-- The job of a task, or why its file cannot be read. -/
def toJob : Task → Except Mishap Job
  | .job j => .ok j
  | .file folder path format => do
    let text ← fileText (← folder.read (normalPath path))
    return .source format (.text text)

end Task

/-- A task, whether a trace is written meanwhile, and the steps that it is given. -/
structure Errand where
  task : Task
  tracing : Tracing
  fuel : Nat

/-- A runner and its surroundings, between two errands. -/
structure Session (V W : Type) where
  runner : Runner V W
  world : W

namespace Session

variable {V W : Type}

/-- Runs an errand: what comes of it, and the session afterwards. -/
def step (s : Session V W) (e : Errand) : Except Mishap (Run V W) × Session V W :=
  let runner := { s.runner with file := e.task.fileName s.runner.file }
  match e.task.toJob with
  | .error m => (.error m, ⟨runner, s.world⟩)
  | .ok job =>
    let run := runner.run e.tracing e.fuel job s.world
    (.ok run, ⟨runner, run.world⟩)

/-- The session after errands, one after another. -/
def after (s : Session V W) (es : List Errand) : Session V W := es.foldl (fun s e => (s.step e).2) s

end Session

end Treewalk
