import Treewalk.Document.Format
import Treewalk.Program.Dump
import Treewalk.Program.Reader

/-!
# Programs written and read back

A dumped program can be written as a text, and the text read as a program again.
`Treewalk.Program.roundTrips` tells whether that gives the same document.
-/

namespace Treewalk

/-- Whether a text of a program's dump is read as a program with the same dump. The program is read
for `file` and dumped relative to `dumpFile`. -/
def Program.roundTrips (file dumpFile : String) (format : Option String) (text : String)
    (p : Program) : Except Fault Bool := do
  let q ← Program.ofDocument file (← Document.read format none (.text text))
  return (q.dump dumpFile).same (p.dump dumpFile)

end Treewalk
