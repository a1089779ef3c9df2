import Treewalk.Template.Brace

/-!
# The routines of an environment

What a program can call by a bare name. The standard routines put out, take in and convert; a game
adds routines that count, hand out objects, look at the caller and fail in given ways.
-/

namespace Treewalk

namespace Routine

/-! ### Putting out and taking in -/

/-- Puts out each argument on lines of its own; an argument that ends its line is not ended again.
Without arguments an empty line is put out. -/
def puts : List Value → Act Value
  | [] => do
    Act.put "\n"
    return .nil
  | v :: rest => putAll (v :: rest)
where
  putAll : List Value → Act Value
    | [] => return .nil
    | v :: rest => do
      let s ← Act.read (·.spoken v)
      Act.put (if s.endsWith "\n" then s else s ++ "\n")
      putAll rest

/-- Puts out all arguments in one piece. -/
def print (args : List Value) : Act Value := do
  let parts ← Act.read fun w => args.mapM w.spoken
  Act.put (String.join parts)
  return .nil

/-- Puts out how an argument is written, and gives it back. -/
def inspect (args : List Value) : Act Value := do
  let v := args.headD .nil
  Act.put ((← Act.read (·.printed v)) ++ "\n")
  return v

/-- Takes in a line; nil at the end of the input. -/
def gets (_ : List Value) : Act Value := do
  let line ← Act.takeLine
  return if line.isEmpty then .nil else .chars line

/-! ### Conversions -/

/-- A template filled with values. The standard environment itself counts as a template: it fills
the next argument. -/
def fillTemplate : List Value → Act Value
  | [] => Act.fail (.type
      "StandardHost.format() missing 1 required positional argument: 'template'")
  | .str s fresh :: args => Template.fillBraces (.str s fresh) s args
  | .environment :: args => fillTemplate args
  | v :: _ => do Act.fail (.noProperty ((← get).typeName v) "format")

/-- The characters of octets; what is not ASCII is no digit, blank or sign. -/
def asciiText (bs : List UInt8) : List Char :=
  bs.map fun b => if b.toNat < 128 then Char.ofNat b.toNat else Text.replacement

/-- Reads a whole number; `written` is how the text is shown if it is none. -/
def readInteger (s : List Char) (written : String) : Except Mishap Answer :=
  match Decimal.readInt s with
  | .value n => .ok (.int n)
  | .tooLong digits => .error (.tooManyDigitsRead digits)
  | .invalid => .error (.value ("invalid literal for int() with base 10: " ++
      String.ofList (written.toList.take 200)))

/-- A value as a whole number: doubles lose their fraction, texts are read. -/
def toInteger (w : World) (v : Value) : Except Mishap Answer :=
  match v, v.number? with
  | _, some (.int n) => .ok (.int n)
  | _, some (.float x) =>
    match Decimal.shape x with
    | .finite b => .ok (.int b.truncate)
    | .infinite _ => .error (.overflow "cannot convert float infinity to integer")
    | .nan => .error (.value "cannot convert float NaN to integer")
  | .str s _, _ => readInteger s.toList (Text.quote s)
  | .bytes bs, _ => readInteger (asciiText bs) (Text.quoteOctets bs)
  | _, _ => .error (.type ("int() argument must be a string, a bytes-like object or a real number, " ++
      "not '" ++ w.typeName v ++ "'"))

/-- Reads a double; `written` is how the text is shown if it is none. -/
def readDouble (s : List Char) (written : String) : Except Mishap Answer :=
  match Decimal.readFloat? s with
  | some x => .ok (.float x)
  | none => .error (.value ("could not convert string to float: " ++ written))

/-- A value as a double: texts are read. -/
def toDouble (w : World) (v : Value) : Except Mishap Answer :=
  match v, v.number? with
  | .float _ _, _ => .ok (.known v)
  | _, some n => do return .float (← n.toFloat)
  | .str s _, _ => readDouble s.toList (Text.quote s)
  | .bytes bs, _ => readDouble (asciiText bs) (Text.quoteOctets bs)
  | _, _ => .error (.type ("float() argument must be a string or a real number, not '" ++
      w.typeName v ++ "'"))

/-! ### Ranges -/

/-- The number of steps from `start` that stay short of `stop`. -/
def stepCount (start stop step : Int) : Nat :=
  if 0 < step then ((stop - start + step - 1).fdiv step).toNat
  else ((start - stop - step - 1).fdiv (-step)).toNat

/-- The integers from `start` by `step`, short of `stop`. -/
def steps (start stop step : Int) : Except Mishap Answer := do
  if step = 0 then throw (.value "range() arg 3 must not be zero")
  let n := stepCount start stop step
  if Sequence.maxIndex < n then throw (.overflow "Python int too large to convert to C ssize_t")
  return .list ((List.range n).map fun (i : Nat) => .int (start + i * step))

/-- A list of integers in even steps. -/
def range (w : World) (args : List Value) : Except Mishap Answer := do
  expectArguments "range" 1 3 args
  match args with
  | [stop] => steps 0 (← w.integer stop) 1
  | [start, stop] => do
    let start ← w.integer start
    steps start (← w.integer stop) 1
  | start :: stop :: step :: _ => do
    let start ← w.integer start
    let stop ← w.integer stop
    steps start stop (← w.integer step)
  | [] => return .known .nil

/-- The routines of every standard environment. -/
def standard : List (String × Capability) :=
  [("float", .reading (takes 1) fun w args => toDouble w (args.headD .nil)),
   ("format", .acting (takesMore 1) fillTemplate),
   ("gets", .acting (takes 0) gets),
   ("int", .reading (takes 1) fun w args => toInteger w (args.headD .nil)),
   ("len", .reading (takes 1) fun w args => do return .int (← w.length (args.headD .nil))),
   ("list", .reading (takesMore 0) fun _ args => .ok (.list args)),
   ("p", .acting (takes 1) inspect),
   ("print", .acting (takesMore 0) print),
   ("puts", .acting (takesMore 0) puts),
   ("range", .reading (takesMore 0) range),
   ("str", .reading (takes 1) fun w args => do return .text (← w.spoken (args.headD .nil)))]

/-! ### A game -/

/-- Counts the calls. -/
def tick (_ : List Value) : Act Value := do
  modify fun w => { w with ticks := w.ticks + 1 }
  return .int (← get).ticks

/-- Fails with the argument as a key that is missing. -/
def boom (args : List Value) : Act Value := do
  Act.fail ((← get).missingKey (args.headD .nil))

/-- States a failure of the program. -/
def fail (args : List Value) : Act Value := do
  throw (.raised (.stated ((← get).picture (args.headD .nil))) .nowhere)

/-- A dictionary of keys and values in turn; a last key without a value is dropped. -/
def entriesOf (w : World) : List Value → Except Mishap (List (Value × Value))
  | k :: v :: rest => do
    w.checkKey k
    return (k, v) :: (← entriesOf w rest)
  | _ => .ok []

/-- A dictionary in which a later value for a key replaces an earlier one. -/
def table (w : World) (args : List Value) : Except Mishap Answer := do
  let entries ← entriesOf w args
  return .dict (entries.foldl (fun es e => w.putEntry e.1 e.2 es) [])

/-- The name of the caller's frame and the depth of the frame stack. -/
def look (activation : Activation) (_ : List Value) : Act Value :=
  Act.answer (.list [.text activation.frame, .int activation.depth])

/-- The first argument, and the list of the others. -/
def more (args : List Value) : Act Value := do
  let rest ← Act.answer (.list (args.drop 1))
  Act.answer (.list (args.take 1 ++ [rest]))

/-- The routines that a game adds. -/
def game : List (String × Capability) :=
  [("_secret", .reading (takes 0) fun _ _ => .ok (.text "secret")),
   ("boom", .acting (takes 1) boom),
   ("counter", .acting (takesUpTo 0 1) fun args => Act.object (.counter (args.headD (.int 0)))),
   ("fail", .acting (takes 1) fail),
   ("gather", .reading (takesMore 0) fun _ args => .ok (.list args)),
   ("kwonly", .reading (takes 1) fun _ args => .ok (.list (args ++ [.nil]))),
   ("lam", .reading (takes 1) fun _ args => .ok (.list (args ++ args))),
   ("look", ⟨takes 0, look⟩),
   ("me", .reading (takes 0) fun _ _ => .ok (.known .environment)),
   ("mood", .acting (takes 0) fun _ => Act.object .grumpy),
   ("more", .acting (takesMore 1) more),
   ("opt", .reading (takesUpTo 1 1) fun _ args =>
     .ok (.list [args.headD .nil, args.getD 1 (.int 1)])),
   ("pair", .reading (takes 2) fun _ args => .ok (.tuple args)),
   ("table", .reading (takesMore 0) table),
   ("tick", .acting (takes 0) tick),
   ("vec", .acting (takes 1) fun args => Act.object (.vector (args.headD .nil)))]

/-- A routine that was registered: it gives back its name and its arguments. -/
def registered (name : String) : Capability :=
  .reading (takesMore 0) fun _ args => .ok (.list (.text name :: args))

end Routine

/-- The routines that come with a setting. -/
def Setting.routines : Setting → List (String × Capability)
  | .standard => Routine.standard
  | .game => Routine.game ++ Routine.standard
  | .empty | .plain | .table | .hollow => []

/-- The names of the routines that come with a setting, in order. -/
def Setting.routineNames (s : Setting) : List String :=
  (s.routines.map (·.1)).mergeSort fun a b => (Value.textOrder a b).isLE

/-- What a setting says when it is asked for its routines: a plain one cannot be asked. -/
def Setting.api (s : Setting) : Except Mishap (List String) :=
  if s = .plain then .error (.noProperty s.typeName "api_methods") else .ok s.routineNames

namespace World

/-- Registers a routine; one of the same name that came with the setting is hidden. -/
def register (w : World) (name : String) : World :=
  { w with registered := name :: w.registered.filter (· != name) }

/-- The routine that was registered under a name. -/
def registered? (w : World) (name : String) : Option Capability :=
  if name ∈ w.registered then some (Routine.registered name) else none

/-- The routine that came with the setting and has a name. -/
def marked? (w : World) (name : String) : Option Capability := w.setting.routines.lookup name

/-- The names of all routines, in order. -/
def routineNames (w : World) : List String :=
  let own := (w.setting.routines.map (·.1)).filter fun name => name ∉ w.registered
  (own ++ w.registered).mergeSort fun a b => (Value.textOrder a b).isLE

end World

end Treewalk
