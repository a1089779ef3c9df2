import Treewalk.Method.Basic
import Treewalk.Text.Encoding
import Treewalk.Text.Lines
import Treewalk.Text.Search

/-!
# What texts can do

The capabilities of texts, by name, but for the one that fills a template. None of them changes
anything, and every text they make is a plain one. Only a partition that finds no separator hands
back its receiver as it is.
-/

namespace Treewalk

/-- A text that is asked for something. -/
structure TextRequest where
  world : World
  receiver : Value
  text : List Char
  args : List Value

namespace TextRequest

/-- What is answered to a request. -/
abbrev Reply := TextRequest → Except Mishap Answer

/-- An argument, if it is given. -/
def arg? (q : TextRequest) (i : Nat) : Option Value := q.args[i]?

/-- The name of the type of a value. -/
def typeName (q : TextRequest) (v : Value) : String := q.world.typeName v

/-- A size, or what it is when it is not given. -/
def size (q : TextRequest) (i : Nat) (usual : Int) : Except Mishap Int :=
  match q.arg? i with
  | some v => q.world.size v
  | none => .ok usual

/-- A small integer, or what it is when it is not given. -/
def smallInteger (q : TextRequest) (i : Nat) (usual : Int) : Except Mishap Int :=
  match q.arg? i with
  | some v => q.world.smallInteger v
  | none => .ok usual

/-- An argument that has to be a text; `refusal` is put in front of what it is instead. -/
def textArg (q : TextRequest) (i : Nat) (refusal : String) : Except Mishap (List Char) :=
  match q.arg? i with
  | some (.str s _) => .ok s.toList
  | some v => .error (.type (refusal ++ q.world.found v))
  | none => .ok []

/-! ### Whole texts -/

/-- A text made of the receiver. -/
def mapped (f : List Char → List Char) : Reply := fun q => .ok (.chars (f q.text))

/-- A truth value read off the receiver. -/
def tested (p : List Char → Bool) : Reply := fun q => .ok (.bool (p q.text))

/-- Whether a text is not empty and all its characters satisfy a test. -/
def allOf (p : Char → Bool) : Reply := tested fun s => !s.isEmpty && s.all p

/-! ### Fields and ends -/

/-- The character that fills a field. -/
def fillCharacter (q : TextRequest) (i : Nat) : Except Mishap Char :=
  match q.arg? i with
  | none => .ok ' '
  | some (.str s _) =>
    match s.toList with
    | [c] => .ok c
    | _ => .error (.type "The fill character must be exactly one character long")
  | some v =>
    .error (.type ("The fill character must be a unicode character, not " ++ q.typeName v))

/-- The receiver in a field of some width. -/
def padded (pad : Nat → Char → List Char → List Char) : Reply := fun q => do
  let width ← q.size 0 0
  let fill ← q.fillCharacter 1
  return .chars (pad width.toNat fill q.text)

/-- The receiver with zeros in front. -/
def zeroFilled : Reply := fun q => do
  return .chars (Text.zeroFill (← q.size 0 0).toNat q.text)

/-- The receiver with blanks for tabs. -/
def expanded : Reply := fun q => do
  return .chars (Text.expandTabs (← q.smallInteger 0 8).toNat 0 q.text)

/-- The receiver without characters at its ends: blanks, or those of the argument. -/
def stripped (name : String) (strip : (Char → Bool) → List Char → List Char) : Reply := fun q =>
  match q.arg? 0 with
  | none | some .nil => .ok (.chars (strip Text.isBlank q.text))
  | some (.str s _) => .ok (.chars (strip s.toList.contains q.text))
  | some _ => .error (.type (name ++ " arg must be None or str"))

/-- The receiver without a beginning. -/
def withoutStart : Reply := fun q => do
  let s ← q.textArg 0 "removeprefix() argument must be str, not "
  return .chars (if s.isPrefixOf q.text then q.text.drop s.length else q.text)

/-- The receiver without an end. -/
def withoutEnd : Reply := fun q => do
  let s ← q.textArg 0 "removesuffix() argument must be str, not "
  return .chars
    (if s.isSuffixOf q.text then q.text.take (q.text.length - s.length) else q.text)

/-! ### Cutting and joining -/

/-- A separator that is empty. -/
def emptySeparator : Mishap := .value "empty separator"

/-- The pieces of the receiver. -/
def split (blank : Int → List Char → List (List Char))
    (on : List Char → Int → List Char → List (List Char)) : Reply := fun q => do
  let limit ← q.size 1 (-1)
  match q.arg? 0 with
  | none | some .nil => return .texts (blank limit q.text)
  | some (.str "" _) => throw emptySeparator
  | some (.str s _) => return .texts (on s.toList limit q.text)
  | some v => throw (.type ("must be str or None, not " ++ q.typeName v))

/-- The lines of the receiver. -/
def lines : Reply := fun q => do
  let keep ← q.smallInteger 0 0
  return .texts (Text.linesOf Text.isLineBoundary (keep != 0) q.text)

/-- The texts among items, which have to be texts. -/
def textItems (q : TextRequest) : (index : Nat) → List Value → Except Mishap (List (List Char))
  | _, [] => .ok []
  | i, .str s _ :: rest => do return s.toList :: (← q.textItems (i + 1) rest)
  | i, v :: _ => .error (.type ("sequence item " ++ toString i ++ ": expected str instance, " ++
      q.typeName v ++ " found"))

/-- The items of the argument with the receiver between them. -/
def joined : Reply := fun q => do
  match (q.arg? 0).bind q.world.items? with
  | none => throw (.type "can only join an iterable")
  | some items => return .chars (Text.joinWith q.text (← q.textItems 0 items))

/-- What stands before a separator, the separator, and what stands behind it. -/
def partition (find : List Char → List Char → Option Nat)
    (missing : Value → List Value) : Reply := fun q => do
  let sep ← match q.arg? 0 with
    | some (.str s _) => pure s.toList
    | v? => throw (.type ("must be str, not " ++ q.typeName (v?.getD .nil)))
  if sep.isEmpty then throw emptySeparator
  match find sep q.text with
  | some i =>
    let rest := q.text.drop (i + sep.length)
    return .tuple [.chars (q.text.take i), (q.arg? 0).getD .nil, .chars rest]
  | none => return .tuple (missing q.receiver)

/-- The receiver with one text put for another. -/
def replaced : Reply := fun q => do
  let old ← q.textArg 0 "replace() argument 1 must be str, not "
  let new ← q.textArg 1 "replace() argument 2 must be str, not "
  let limit ← q.size 2 (-1)
  return .chars (Text.replace old new limit q.text)

/-! ### Searching -/

/-- One end of a window: nil stands for the end of the text. -/
def windowEnd (q : TextRequest) (i : Nat) (usual : Int) : Except Mishap Int :=
  match q.arg? i with
  | none | some .nil => .ok usual
  | some v =>
    match v.int? with
    | some n => .ok n
    | none =>
      .error (.type "slice indices must be integers or None or have an __index__ method")

/-- What is looked for and the window of the receiver in which it is looked for. -/
def searched (name : String) (q : TextRequest) :
    Except Mishap (Value × Option (Nat × List Char)) := do
  match q.args with
  | [] => throw (.type (name ++ "() takes at least 1 argument (0 given)"))
  | v :: _ =>
    if 3 < q.args.length then
      throw (.type (name ++ "() takes at most 3 arguments (" ++ toString q.args.length ++ " given)"))
    let start ← q.windowEnd 1 0
    let stop ← q.windowEnd 2 q.text.length
    return (v, Text.window start stop q.text)

/-- Looks for a text in a window. -/
def search (name : String) (none : Answer) (found : Nat → List Char → List Char → Answer) :
    Reply := fun q => do
  match ← q.searched name with
  | (.str s _, window) => return window.elim none fun (start, part) => found start s.toList part
  | (v, _) => throw (.type ("must be str, not " ++ q.typeName v))

/-- A position in the whole text, or minus one. -/
def position (start : Nat) : Option Nat → Answer
  | some i => .int (start + i)
  | none => .int (-1)

/-- A search that has to find something. -/
def surely (reply : Reply) : Reply := fun q => do
  match ← reply q with
  | .known (.int (-1)) => throw (.value "substring not found")
  | a => return a

/-- Whether one of some values is a text that satisfies a test. -/
def anyText (q : TextRequest) (name : String) (p : List Char → Bool) :
    List Value → Except Mishap Bool
  | [] => .ok false
  | .str s _ :: rest => if p s.toList then .ok true else q.anyText name p rest
  | v :: _ => .error (.type ("tuple for " ++ name ++ " must only contain str, not " ++ q.typeName v))

/-- Whether a window begins or ends with a text, or with one of a tuple of texts. -/
def touches (name : String) (p : List Char → List Char → Bool) : Reply := fun q => do
  let (v, window) ← q.searched name
  let holds (s : List Char) : Bool := window.elim false fun w => p s w.2
  match v, q.world.sequence? v with
  | .str s _, _ => return .bool (holds s.toList)
  | _, some (.tuple items) => return .bool (← q.anyText name holds items)
  | _, _ => throw (.type (name ++ " first arg must be str or a tuple of str, not " ++ q.typeName v))

/-! ### Octets -/

/-- An argument that names something and is a text. -/
def nameArg (w : World) (method parameter usual : String) : Option Value → Except Mishap String
  | none => .ok usual
  | some (.str s _) =>
    if s.contains '\x00' then .error (.value "embedded null character") else .ok s
  | some v => .error (.type (method ++ "() argument '" ++ parameter ++ "' must be str, not " ++
      w.found v))

/-- The receiver as octets. -/
def encoded : Reply := fun q => do
  let encoding ← nameArg q.world "encode" "encoding" "utf-8" (q.arg? 0)
  let mending ← nameArg q.world "encode" "errors" "strict" (q.arg? 1)
  return .known (.bytes (← Text.Encoding.encodeAs encoding mending q.text))

end TextRequest

open TextRequest in
/-- The capabilities of texts: how many arguments each takes, if that is checked beforehand, and
what it answers. -/
def textMethods : List (String × Option Signature × TextRequest.Reply) :=
  [("upper", takes 0, mapped Text.toUpper),
   ("lower", takes 0, mapped Text.toLower),
   ("capitalize", takes 0, mapped Text.capitalize),
   ("title", takes 0, mapped (Text.toTitle false [])),
   ("swapcase", takes 0, mapped (Text.swapCase [])),
   ("casefold", takes 0, mapped fun s => s.flatMap Text.fold),
   ("isalnum", takes 0, allOf Text.isAlnum),
   ("isalpha", takes 0, allOf Text.isAlpha),
   ("isascii", takes 0, tested fun s => s.all fun c => c.toNat < 128),
   ("isdecimal", takes 0, allOf Text.isDecimal),
   ("isdigit", takes 0, allOf Text.isDigit),
   ("isidentifier", takes 0, tested Text.isIdentifier),
   ("islower", takes 0, tested Text.isAllLower),
   ("isnumeric", takes 0, allOf Text.isNumeric),
   ("isprintable", takes 0, tested fun s => s.all Text.isPrintable),
   ("isspace", takes 0, allOf Text.isBlank),
   ("istitle", takes 0, tested (Text.isTitled false false)),
   ("isupper", takes 0, tested Text.isAllUpper),
   ("center", takesUpTo 1 1, padded Text.center),
   ("ljust", takesUpTo 1 1, padded Text.padRight),
   ("rjust", takesUpTo 1 1, padded Text.padLeft),
   ("zfill", takes 1, zeroFilled),
   ("expandtabs", takesUpTo 0 1, expanded),
   ("strip", takesUpTo 0 1, stripped "strip" fun p s => Text.stripLeft p (Text.stripRight p s)),
   ("lstrip", takesUpTo 0 1, stripped "lstrip" Text.stripLeft),
   ("rstrip", takesUpTo 0 1, stripped "rstrip" Text.stripRight),
   ("removeprefix", takes 1, withoutStart),
   ("removesuffix", takes 1, withoutEnd),
   ("split", takesUpTo 0 2, split (Text.splitBlank Text.isBlank) Text.splitOn),
   ("rsplit", takesUpTo 0 2, split (Text.splitBlankRight Text.isBlank) Text.splitOnRight),
   ("splitlines", takesUpTo 0 1, lines),
   ("join", takes 1, joined),
   ("partition", takes 1, partition Text.findFirst fun v => [v, .text "", .text ""]),
   ("rpartition", takes 1, partition Text.findLast fun v => [.text "", .text "", v]),
   ("replace", takesUpTo 2 1, replaced),
   ("count", none, search "count" (.int 0) fun _ s part => .int (Text.countOf s part)),
   ("find", none, search "find" (.int (-1)) fun start s part =>
     position start (Text.findFirst s part)),
   ("rfind", none, search "rfind" (.int (-1)) fun start s part =>
     position start (Text.findLast s part)),
   ("rindex", none, surely <| search "rindex" (.int (-1)) fun start s part =>
     position start (Text.findLast s part)),
   ("startswith", none, touches "startswith" List.isPrefixOf),
   ("endswith", none, touches "endswith" List.isSuffixOf),
   ("encode", takesUpTo 0 2, encoded)]

/-- The capability of a text with a name. -/
def textMethod? (receiver : Value) (text : String) (name : String) : Option Capability :=
  if name = "translate" then some (.closed (takes 1))
  else if name ∈ ["maketrans", "format_map"] then some (.closed none)
  else (textMethods.lookup name).map fun (signature, reply) =>
    .reading signature fun w args => reply ⟨w, receiver, text.toList, args⟩

end Treewalk
