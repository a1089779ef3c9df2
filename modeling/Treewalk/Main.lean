import Treewalk.CommandLine

/-!
# The program

Runs a program document from a file or from standard input.
-/

open Treewalk

/-- The octets of a file, or why it cannot be read. -/
def readOctets (path : String) : IO (Except Mishap (List UInt8)) := do
  try
    return .ok (← IO.FS.readBinFile path).toList
  catch e =>
    return .error (match e with
      | .noFileOrDirectory .. => .missingFile path
      | _ => .isDirectory path)

/-- All of standard input. -/
def readInput : IO String := do
  let octets ← (← IO.getStdin).readBinToEnd
  return String.ofList (plainLineEnds (Text.Utf8.decodeReplacing octets.toList))

/-- Writes what a run left and gives its exit status. -/
def finish (r : CommandLine.Result) : IO UInt32 := do
  IO.print r.output
  IO.eprint r.errors
  match r.exit with
  | .ok code => return code.toUInt32
  | .error fault =>
    IO.eprintln (fault.title ++ ": " ++ fault.message)
    return 1

/-- Does what the arguments ask for. -/
def main (args : List String) : IO UInt32 := do
  let name := "treewalk"
  let fuel := 1000000000000000000
  match CommandLine.read args with
  | .error m => finish (CommandLine.misused name m)
  | .ok o =>
    if o.help then finish (CommandLine.start args name name (fun p => .error (.missingFile p)) "" fuel)
    else
      let content ← match o.file? with
        | some path => readOctets path
        | none => pure (.ok [])
      finish (CommandLine.execute o name (fun _ => content) (← readInput) fuel)
