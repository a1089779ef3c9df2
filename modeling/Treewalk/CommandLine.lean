import Treewalk.Host.Bridges
import Treewalk.Program.Printer
import Treewalk.Runner.Basic
import Treewalk.Runner.Folder

/-!
# The command line

The arguments of the program and what it does with them. Options may stand anywhere, short ones may
be written together, and long ones may be cut short as long as they stay distinct. Behind `--`
everything is a path.

`Treewalk.CommandLine.read` gives the options or what is wrong with the arguments;
`Treewalk.CommandLine.execute` loads and runs a program and gives all that is to be written.
-/

namespace Treewalk.CommandLine

/-- The options there are. -/
inductive Flag where
  | help
  | format
  | ast
  | print
  deriving DecidableEq, Repr

namespace Flag

/-- The spellings of the options, in the order in which they are listed. -/
def spellings : List (String × Flag) :=
  [("-h", .help), ("--help", .help), ("--format", .format), ("-a", .ast), ("--ast", .ast),
   ("-p", .print), ("--print", .print)]

/-- The option with a spelling. -/
def ofSpelling? (s : String) : Option Flag := spellings.lookup s

/-- All spellings of an option. -/
def title (f : Flag) : String :=
  "/".intercalate ((spellings.filter (·.2 = f)).map (·.1))

/-- Whether an option takes a value. -/
def takesValue (f : Flag) : Bool := f = .format

end Flag

/-- What is wrong with arguments. -/
inductive Misuse where
  | ambiguous (argument : String) (spellings : List String)
  | ignoredValue (flag : Flag) (value : String)
  | noValue (flag : Flag)
  | badChoice (flag : Flag) (value : String)
  | unknown (arguments : List String)

/-- The formats that can be chosen. -/
def formats : List String := ["yaml", "json"]

/-- What is said of misuse. -/
def Misuse.text : Misuse → String
  | .ambiguous argument spellings =>
    "ambiguous option: " ++ argument ++ " could match " ++ ", ".intercalate spellings
  | .ignoredValue flag value =>
    "argument " ++ flag.title ++ ": ignored explicit argument " ++ Text.quote value
  | .noValue flag => "argument " ++ flag.title ++ ": expected one argument"
  | .badChoice flag value =>
    "argument " ++ flag.title ++ ": invalid choice: " ++ Text.quote value ++ " (choose from " ++
      ", ".intercalate (formats.map Text.quote) ++ ")"
  | .unknown arguments => "unrecognized arguments: " ++ " ".intercalate arguments

/-- What an argument is taken for. -/
inductive Argument where
  | plain (text : String)
  | dashes
  | option (flag : Flag) (spelling : String) (value : Option String)
  | unknown (text : String)

/-- Cuts a text at its first equals sign. -/
def cutAtEquals (s : String) : Option (String × String) :=
  match Text.splitOn ['='] 1 s.toList with
  | [a, b] => some (String.ofList a, String.ofList b)
  | _ => none

/-- Whether a text is a negative number. A line feed at its end does not matter. -/
def isNegativeNumber (s : List Char) : Bool :=
  match if s.getLast? == some '\n' then s.dropLast else s with
  | '-' :: rest =>
    let whole := rest.takeWhile Text.isDecimal
    match rest.dropWhile Text.isDecimal with
    | [] => !whole.isEmpty
    | '.' :: decimals => !decimals.isEmpty && decimals.all Text.isDecimal
    | _ => false
  | _ => false

/-- The options that an argument may be short for. -/
def candidates (s : String) : List (Flag × String × Option String) :=
  if s.startsWith "--" then
    let (stem, value) := match cutAtEquals s with
      | some (stem, value) => (stem, some value)
      | none => (s, none)
    Flag.spellings.filterMap fun (spelling, flag) =>
      if spelling.startsWith stem then some (flag, spelling, value) else none
  else
    Flag.spellings.filterMap fun (spelling, flag) =>
      if spelling.toList = s.toList.take 2 then
        some (flag, spelling, some (String.ofList (s.toList.drop 2)))
      else if spelling.startsWith s then some (flag, spelling, none)
      else none

/-- What an argument is taken for, unless it is ambiguous. -/
def classify (s : String) : Except Misuse Argument :=
  if !s.startsWith "-" then .ok (.plain s)
  else
    match Flag.ofSpelling? s with
    | some flag => .ok (.option flag s none)
    | none =>
      if s = "-" then .ok (.plain s)
      else
        match (cutAtEquals s).bind fun (stem, value) =>
            (Flag.ofSpelling? stem).map fun flag => Argument.option flag stem (some value) with
        | some a => .ok a
        | none =>
          match candidates s with
          | [(flag, spelling, value)] => .ok (.option flag spelling value)
          | _ :: _ :: _ => .error (.ambiguous s ((candidates s).map (·.2.1)))
          | [] =>
            if isNegativeNumber s.toList || s.contains ' ' then .ok (.plain s)
            else .ok (.unknown s)

/-- What the arguments are taken for. Behind two dashes all are plain. -/
def classifyAll : List String → Except Misuse (List Argument)
  | [] => .ok []
  | "--" :: rest => .ok (.dashes :: rest.map .plain)
  | s :: rest => do
    let a ← classify s
    return a :: (← classifyAll rest)

/-- What the arguments ask for. -/
structure Options where
  path : Option String := none
  format : Option String := none
  ast : Bool := false
  print : Bool := false
  help : Bool := false

/-- What has been read of the arguments: the options, whether the place of the path is taken, and
what nobody wanted. -/
structure Progress where
  options : Options := {}
  placed : Bool := false
  extra : List String := []

/-- Sets an option. -/
def Options.set (o : Options) (flag : Flag) (value : String) : Except Misuse Options :=
  match flag with
  | .help => .ok { o with help := true }
  | .ast => .ok { o with ast := true }
  | .print => .ok { o with print := true }
  | .format =>
    if value ∈ formats then .ok { o with format := some value }
    else .error (.badChoice .format value)

/-- Sets an option that stands with a value behind it; the value of a short option that takes none
is a run of further short options. -/
def setWithValue (o : Options) : (fuel : Nat) → Flag → (short : Bool) → List Char →
    Except Misuse Options
  | 0, _, _, _ => .ok o
  | fuel + 1, flag, short, value =>
    if flag.takesValue then o.set flag (String.ofList value)
    else
      let ignored : Misuse := .ignoredValue flag (String.ofList value)
      match short, value with
      | true, c :: rest =>
        match Flag.ofSpelling? (String.ofList ['-', c]) with
        | none => .error ignored
        | some next => do
          let after ← match rest with
            | [] => o.set next ""
            | rest => setWithValue o fuel next true rest
          after.set flag ""
      | _, _ => .error ignored

/-- The path that is given, behind which further texts are not wanted. -/
def Progress.place (p : Progress) (path : Option String) (extra : List String) : Progress :=
  { options := { p.options with path := path }, placed := true, extra := p.extra ++ extra }

/-- The texts of plain arguments. -/
def plainTexts (args : List Argument) : List String :=
  args.filterMap fun
    | .plain s => some s
    | _ => none

/-- Reads classified arguments. Two dashes right behind the path, or in its place, are passed over;
elsewhere they are not wanted. -/
def readFrom (p : Progress) : List Argument → Except Misuse Progress
  | [] => .ok p
  | .plain s :: .dashes :: rest =>
    let more := plainTexts rest
    .ok (if p.placed then { p with extra := p.extra ++ (s :: "--" :: more) }
      else p.place (some s) more)
  | .plain s :: rest =>
    readFrom (if p.placed then { p with extra := p.extra ++ [s] } else p.place (some s) []) rest
  | .dashes :: rest =>
    let more := plainTexts rest
    .ok (if p.placed then { p with extra := p.extra ++ ("--" :: more) }
      else p.place more.head? more.tail)
  | .unknown s :: rest => readFrom { p with extra := p.extra ++ [s] } rest
  | .option flag spelling (some value) :: rest => do
    let o ← setWithValue p.options (value.length + 1) flag (!spelling.startsWith "--") value.toList
    if o.help then return { p with options := o } else readFrom { p with options := o } rest
  | .option flag _ none :: rest =>
    if flag.takesValue then
      match rest with
      | .plain s :: rest => do
        let o ← p.options.set flag s
        readFrom { p with options := o } rest
      | _ => .error (.noValue flag)
    else do
      let o ← p.options.set flag ""
      if o.help then return { p with options := o } else readFrom { p with options := o } rest

/-- The options that arguments stand for. -/
def read (args : List String) : Except Misuse Options := do
  let p ← readFrom {} (← classifyAll args)
  if p.options.help || p.extra.isEmpty then return p.options
  else throw (.unknown p.extra)

/-! ### What is written -/

/-- How the program is used. -/
def usage (program : String) : String :=
  "usage: " ++ program ++ " [-h] [--format \x7byaml,json\x7d] [-a] [-p] [path]\n"

/-- What the program is for and what its arguments mean. -/
def helpText (program : String) : String :=
  usage program ++ "\n" ++
  "Evaluate an intp program tree\n\n" ++
  "positional arguments:\n" ++
  "  path                  program document to evaluate (stdin when omitted)\n\n" ++
  "options:\n" ++
  "  -h, --help            show this help message and exit\n" ++
  "  --format \x7byaml,json\x7d  document format (detected when omitted)\n" ++
  "  -a, --ast             print the program before running it\n" ++
  "  -p, --print           print the final value\n"

/-- What a run of the command line leaves: the exit status and what was written, or the fault that
ended it. -/
structure Result where
  exit : Except Fault Nat
  output : String := ""
  errors : String := ""

/-- What is left when the arguments are wrong. -/
def misused (program : String) (m : Misuse) : Result :=
  ⟨.ok 2, "", usage program ++ program ++ ": error: " ++ m.text ++ "\n"⟩

/-- Runs a program that was loaded, after `shown` has been written. -/
def perform (o : Options) (name shown stdin : String) (fuel : Nat) (p : Program) : Result :=
  let runner : Runner Value World := { bridge := Bridges.reflective, file := p.file }
  let run := runner.run .off fuel (.program p) (World.start .standard stdin)
  let output := shown ++ String.join run.world.output.toList
  match run.ending with
  | .failed f => ⟨.ok 1, output, name ++ ": " ++ f.message ++ "\n"⟩
  | .escaped fault => ⟨.error fault, output, ""⟩
  | .unfinished => ⟨.ok 1, output, name ++ ": the evaluation was given up\n"⟩
  | .finished v =>
    if o.print then
      match run.world.printed v with
      | .ok s => ⟨.ok 0, output ++ s ++ "\n", ""⟩
      | .error m => ⟨.error (.host m), output, ""⟩
    else ⟨.ok 0, output, ""⟩

/-- Writes a program that was loaded, if that is asked for, and runs it. -/
def present (o : Options) (name stdin : String) (fuel : Nat) (p : Program) : Result :=
  if o.ast then
    match p.printed 2 0 with
    | .ok s => perform o name (s ++ "\n\n") stdin fuel p
    | .error m => ⟨.error (.host m), "", ""⟩
  else perform o name "" stdin fuel p

/-- The path that options give; an empty one counts as none. -/
def Options.file? (o : Options) : Option String := o.path.filter (· ≠ "")

/-- Loads a program and runs it. `name` stands in front of what goes wrong, `file` gives the octets
of the file at a path. -/
def execute (o : Options) (name : String) (file : String → Except Mishap (List UInt8))
    (stdin : String) (fuel : Nat) : Result :=
  let complain (message : String) : Result := ⟨.ok 1, "", name ++ ": " ++ message ++ "\n"⟩
  let text := match o.file? with
    | some path => do fileText (← file path)
    | none => .ok stdin
  match text with
  | .error m => if m.isUnreadable then complain m.message else ⟨.error (.host m), "", ""⟩
  | .ok text =>
    match Program.load (o.file?.getD "-") o.format (.text text) with
    | .error (.host m) => ⟨.error (.host m), "", ""⟩
    | .error fault => complain fault.message
    | .ok p => present o name (if o.file?.isSome then stdin else "") fuel p

/-- Reads the arguments and does what they ask for. `program` is the name the program is called by,
`name` the one that stands in front of what goes wrong. -/
def start (args : List String) (program name : String)
    (file : String → Except Mishap (List UInt8)) (stdin : String) (fuel : Nat) : Result :=
  match read args with
  | .error m => misused program m
  | .ok o => if o.help then ⟨.ok 0, helpText program, ""⟩ else execute o name file stdin fuel

end Treewalk.CommandLine
