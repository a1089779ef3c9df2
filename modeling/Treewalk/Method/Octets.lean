import Treewalk.Method.Text
import Treewalk.Text.Octets

/-!
# What byte strings can do

The capabilities of byte strings, by name. Most are those of texts, on octets: what is looked for or
put in has to be a byte string, and only the letters and blanks of ASCII count as such.
-/

namespace Treewalk

/-- A byte string that is asked for something. The octets are held as a text. -/
structure OctetRequest where
  world : World
  receiver : Value
  octets : List Char
  args : List Value

namespace OctetRequest

/-- What is answered to a request. -/
abbrev Reply := OctetRequest → Except Mishap Answer

/-- An argument, if it is given. -/
def arg? (q : OctetRequest) (i : Nat) : Option Value := q.args[i]?

/-- The byte string of a text. -/
def bytes (s : List Char) : Value := .bytes (Text.Octets.ofText s)

/-- A value where a byte string is wanted. -/
def notOctets (w : World) (v : Value) : Mishap :=
  .type ("a bytes-like object is required, not '" ++ w.typeName v ++ "'")

/-- The octets of a value that has to be a byte string. -/
def octetsOf (w : World) : Value → Except Mishap (List Char)
  | .bytes bs => .ok (Text.Octets.toText bs)
  | v => .error (notOctets w v)

/-- An argument that has to be a byte string. -/
def octetArg (q : OctetRequest) (i : Nat) : Except Mishap (List Char) :=
  octetsOf q.world ((q.arg? i).getD .nil)

/-- A size, or what it is when it is not given. -/
def size (q : OctetRequest) (i : Nat) (usual : Int) : Except Mishap Int :=
  match q.arg? i with
  | some v => q.world.size v
  | none => .ok usual

/-- A small integer, or what it is when it is not given. -/
def smallInteger (q : OctetRequest) (i : Nat) (usual : Int) : Except Mishap Int :=
  match q.arg? i with
  | some v => q.world.smallInteger v
  | none => .ok usual

/-! ### Whole byte strings -/

/-- A byte string made of the receiver, by a capability that takes no arguments. -/
def mapped (name : String) (f : List Char → List Char) : Reply := fun q => do
  refuseArguments q.world q.receiver name q.args
  return .known (bytes (f q.octets))

/-- A truth value read off the receiver, by a capability that takes no arguments. -/
def tested (name : String) (p : List Char → Bool) : Reply := fun q => do
  refuseArguments q.world q.receiver name q.args
  return .bool (p q.octets)

/-- Whether there are octets and all of them satisfy a test. -/
def allOf (name : String) (p : Char → Bool) : Reply := tested name fun s => !s.isEmpty && s.all p

/-! ### Fields and ends -/

/-- The octet that fills a field. -/
def filling (q : OctetRequest) (name : String) : Except Mishap Char :=
  match q.arg? 1 with
  | none => .ok ' '
  | some (.bytes [b]) => .ok (Text.Octets.toChar b)
  | some v => .error (.type (name ++ "() argument 2 must be a byte string of length 1, not " ++
      q.world.found v))

/-- The receiver in a field of some width. -/
def padded (name : String) (pad : Nat → Char → List Char → List Char) : Reply := fun q => do
  let width ← q.size 0 0
  let fill ← q.filling name
  return .known (bytes (pad width.toNat fill q.octets))

/-- The receiver with zeros in front. -/
def zeroFilled : Reply := fun q => do
  return .known (bytes (Text.zeroFill (← q.size 0 0).toNat q.octets))

/-- The receiver with blanks for tabs. -/
def expanded : Reply := fun q => do
  return .known (bytes (Text.expandTabs (← q.smallInteger 0 8).toNat 0 q.octets))

/-- The receiver without octets at its ends: blanks, or those of the argument. -/
def stripped (strip : (Char → Bool) → List Char → List Char) : Reply := fun q => do
  match q.arg? 0 with
  | none | some .nil => return .known (bytes (strip Text.Octets.isBlank q.octets))
  | some v => return .known (bytes (strip (← octetsOf q.world v).contains q.octets))

/-- The receiver without a beginning. -/
def withoutStart : Reply := fun q => do
  let s ← q.octetArg 0
  return .known (bytes (if s.isPrefixOf q.octets then q.octets.drop s.length else q.octets))

/-- The receiver without an end. -/
def withoutEnd : Reply := fun q => do
  let s ← q.octetArg 0
  return .known (bytes
    (if s.isSuffixOf q.octets then q.octets.take (q.octets.length - s.length) else q.octets))

/-! ### Cutting and joining -/

/-- The pieces of the receiver. -/
def split (blank : Int → List Char → List (List Char))
    (on : List Char → Int → List Char → List (List Char)) : Reply := fun q => do
  let limit ← q.size 1 (-1)
  match q.arg? 0 with
  | none | some .nil => return .list ((blank limit q.octets).map bytes)
  | some v =>
    let sep ← octetsOf q.world v
    if sep.isEmpty then throw TextRequest.emptySeparator
    return .list ((on sep limit q.octets).map bytes)

/-- The lines of the receiver. -/
def lines : Reply := fun q => do
  let keep ← q.smallInteger 0 0
  return .list ((Text.linesOf Text.Octets.isLineBoundary (keep != 0) q.octets).map bytes)

/-- The octets of items, which have to be byte strings. -/
def octetItems (q : OctetRequest) : (index : Nat) → List Value → Except Mishap (List (List Char))
  | _, [] => .ok []
  | i, .bytes bs :: rest => do return Text.Octets.toText bs :: (← q.octetItems (i + 1) rest)
  | i, v :: _ => .error (.type ("sequence item " ++ toString i ++
      ": expected a bytes-like object, " ++ q.world.typeName v ++ " found"))

/-- The items of the argument with the receiver between them. -/
def joined : Reply := fun q => do
  match (q.arg? 0).bind q.world.items? with
  | none => throw (.type "can only join an iterable")
  | some items => return .known (bytes (Text.joinWith q.octets (← q.octetItems 0 items)))

/-- What stands before a separator, the separator, and what stands behind it. -/
def partition (find : List Char → List Char → Option Nat)
    (missing : Value → List Value) : Reply := fun q => do
  let sep ← q.octetArg 0
  if sep.isEmpty then throw TextRequest.emptySeparator
  match find sep q.octets with
  | some i =>
    let rest := q.octets.drop (i + sep.length)
    return .tuple [bytes (q.octets.take i), bytes sep, bytes rest]
  | none => return .tuple (missing q.receiver)

/-- The receiver with one byte string put for another. -/
def replaced : Reply := fun q => do
  let old ← q.octetArg 0
  let new ← q.octetArg 1
  let limit ← q.size 2 (-1)
  return .known (bytes (Text.replace old new limit q.octets))

/-- The table that takes each octet of one byte string to the one at its place in another. -/
def tableOf (source target : List Char) : List Char :=
  (List.range 256).map fun n =>
    ((source.zip target).reverse.lookup (Char.ofNat n)).getD (Char.ofNat n)

/-- A table of octets. -/
def table : Reply := fun q => do
  let source ← q.octetArg 0
  let target ← q.octetArg 1
  if source.length ≠ target.length then throw (.value "maketrans arguments must have same length")
  return .known (bytes (tableOf source target))

/-- The table that is given; one that changes nothing if there is none. -/
def givenTable (q : OctetRequest) : Except Mishap (List Char) :=
  match q.arg? 0 with
  | none | some .nil => .ok (tableOf [] [])
  | some v => octetsOf q.world v

/-- The octets that are to be left out. -/
def leftOut (q : OctetRequest) : Except Mishap (List Char) :=
  match q.arg? 1 with
  | none => .ok []
  | some v => octetsOf q.world v

/-- The receiver with its octets replaced by a table, those left out that the second argument
holds. -/
def tabled : Reply := fun q => do
  let table ← q.givenTable
  if table.length ≠ 256 then throw (.value "translation table must be 256 characters long")
  let left ← q.leftOut
  return .known (bytes ((q.octets.filter fun c => !left.contains c).map fun c =>
    table.getD c.toNat c))

/-! ### Searching -/

/-- What is looked for, as octets: a byte string, or the number of one octet. -/
def sought (w : World) (v : Value) : Except Mishap (List Char) :=
  match v, v.int? with
  | .bytes bs, _ => .ok (Text.Octets.toText bs)
  | _, some n =>
    if n < 0 || 256 ≤ n then .error (.value "byte must be in range(0, 256)")
    else .ok [Char.ofNat n.toNat]
  | v, none => .error (.type ("argument should be integer or bytes-like object, not '" ++
      w.typeName v ++ "'"))

/-- What is looked for and the window of the receiver in which it is looked for. -/
def searched (name : String) (q : OctetRequest) :
    Except Mishap (Value × Option (Nat × List Char)) :=
  TextRequest.searched name ⟨q.world, q.receiver, q.octets, q.args⟩

/-- Looks for octets in a window. -/
def search (name : String) (none : Answer) (found : Nat → List Char → List Char → Answer) :
    Reply := fun q => do
  let (v, window) ← q.searched name
  let s ← sought q.world v
  return window.elim none fun (start, part) => found start s part

/-- A search that has to find something. -/
def surely (reply : Reply) : Reply := fun q => do
  match ← reply q with
  | .known (.int (-1)) => throw (.value "subsection not found")
  | a => return a

/-- Whether one of some byte strings satisfies a test. -/
def anyOctets (w : World) (p : List Char → Bool) : List Value → Except Mishap Bool
  | [] => .ok false
  | v :: rest => do if p (← octetsOf w v) then return true else anyOctets w p rest

/-- Whether a window begins or ends with a byte string, or with one of a tuple of them. -/
def touches (name : String) (p : List Char → List Char → Bool) : Reply := fun q => do
  let (v, window) ← q.searched name
  let holds (s : List Char) : Bool := window.elim false fun w => p s w.2
  match v, q.world.sequence? v with
  | .bytes bs, _ => return .bool (holds (Text.Octets.toText bs))
  | _, some (.tuple items) => return .bool (← anyOctets q.world holds items)
  | _, _ => throw (.type (name ++ " first arg must be bytes or a tuple of bytes, not " ++
      q.world.typeName v))

/-! ### Texts -/

/-- The value of a hexadecimal digit. -/
def hexValue? (c : Char) : Option Nat :=
  if c.isDigit then some (c.toNat - '0'.toNat)
  else if 'a' ≤ c && c ≤ 'f' then some (c.toNat - 'a'.toNat + 10)
  else if 'A' ≤ c && c ≤ 'F' then some (c.toNat - 'A'.toNat + 10)
  else none

/-- The octets that pairs of hexadecimal digits stand for, or the position of what is none. Blanks
may stand between the pairs. -/
def fromHex : (position : Nat) → List Char → Except Nat (List UInt8)
  | _, [] => .ok []
  | i, c :: rest =>
    if Text.Octets.isBlank c then fromHex (i + 1) rest
    else match hexValue? c, rest with
      | none, _ => .error i
      | some _, [] => .error (i + 1)
      | some high, d :: rest =>
        match hexValue? d with
        | none => .error (i + 1)
        | some low => do return (16 * high + low).toUInt8 :: (← fromHex (i + 2) rest)

/-- The byte string that hexadecimal digits stand for. A character outside ASCII is found first. -/
def readHex (s : List Char) : Except Mishap Answer :=
  let digits : Except Nat (List UInt8) := match s.findIdx? fun c => 128 ≤ c.toNat with
    | some i => .error i
    | none => fromHex 0 s
  match digits with
  | .ok bs => .ok (.known (.bytes bs))
  | .error i => .error (.value ("non-hexadecimal number found in fromhex() arg at position " ++
      toString i))

/-- The byte string that the hexadecimal digits of the argument stand for. -/
def ofHex : Reply := fun q =>
  match q.arg? 0 with
  | some (.str s _) => readHex s.toList
  | v? => .error (.type ("fromhex() argument must be str, not " ++ q.world.found (v?.getD .nil)))

/-- The text that the receiver encodes. -/
def decoded : Reply := fun q => do
  let encoding ← TextRequest.nameArg q.world "decode" "encoding" "utf-8" (q.arg? 0)
  let mending ← TextRequest.nameArg q.world "decode" "errors" "strict" (q.arg? 1)
  return .chars (← Text.Encoding.decodeAs encoding mending (Text.Octets.ofText q.octets))

/-- The sign between groups of octets. -/
def separator (w : World) (v : Value) : Except Mishap Char := do
  if (← w.length v) ≠ 1 then throw (.value "sep must be length 1.")
  let code ← match v with
    | .str s _ => pure (s.toList.headD ' ').toNat
    | .bytes bs => pure (bs.headD 0).toNat
    | _ => throw (.type "sep must be str or bytes.")
  if 128 ≤ code then throw (.value "sep must be ASCII.")
  return Char.ofNat code

/-- Groups of a size, counted from the front. -/
def groups {α : Type} (size : Nat) : (fuel : Nat) → List α → List (List α)
  | 0, _ => []
  | _, [] => []
  | fuel + 1, xs => xs.take size :: groups size fuel (xs.drop size)

/-- Pairs of hexadecimal digits with a sign between groups of them. Groups are counted from the end,
or from the front if their size is negative. -/
def hexGroups (sep : Char) (size : Int) (pairs : List (List Char)) : List Char :=
  let n := size.natAbs
  let parts := if 0 < size then
      ((groups n pairs.length pairs.reverse).map List.reverse).reverse
    else groups n pairs.length pairs
  Text.joinWith [sep] (parts.map List.flatten)

/-- The hexadecimal digits of a byte string, in groups if there is a separator. -/
def hexDigits : Reply := fun q => do
  if 2 < q.args.length then
    throw (.type ("hex() takes at most 2 arguments (" ++ toString q.args.length ++ " given)"))
  let size ← q.smallInteger 1 1
  let pairs := q.octets.map fun c => Text.hexPadded 2 c.toNat
  match q.arg? 0 with
  | none => return .chars pairs.flatten
  | some v =>
    let sep ← separator q.world v
    return .chars (if size = 0 then pairs.flatten else hexGroups sep size pairs)

end OctetRequest

open OctetRequest in
/-- The capabilities of byte strings: how many arguments each takes, if that is checked beforehand,
and what it answers. -/
def octetMethods : List (String × Option Signature × OctetRequest.Reply) :=
  [("upper", none, mapped "upper" (·.map Char.toUpper)),
   ("lower", none, mapped "lower" (·.map Char.toLower)),
   ("capitalize", none, mapped "capitalize" Text.Octets.capitalize),
   ("title", none, mapped "title" (Text.Octets.toTitle false)),
   ("swapcase", none, mapped "swapcase" (·.map Text.Octets.swapCase)),
   ("isalnum", none, allOf "isalnum" Char.isAlphanum),
   ("isalpha", none, allOf "isalpha" Char.isAlpha),
   ("isascii", none, tested "isascii" fun s => s.all fun c => c.toNat < 128),
   ("isdigit", none, allOf "isdigit" Char.isDigit),
   ("islower", none, tested "islower" Text.Octets.isAllLower),
   ("isspace", none, allOf "isspace" Text.Octets.isBlank),
   ("istitle", none, tested "istitle" (Text.Octets.isTitled false false)),
   ("isupper", none, tested "isupper" Text.Octets.isAllUpper),
   ("center", takesUpTo 1 1, padded "center" Text.center),
   ("ljust", takesUpTo 1 1, padded "ljust" Text.padRight),
   ("rjust", takesUpTo 1 1, padded "rjust" Text.padLeft),
   ("zfill", takes 1, zeroFilled),
   ("expandtabs", takesUpTo 0 1, expanded),
   ("strip", takesUpTo 0 1, stripped fun p s => Text.stripLeft p (Text.stripRight p s)),
   ("lstrip", takesUpTo 0 1, stripped Text.stripLeft),
   ("rstrip", takesUpTo 0 1, stripped Text.stripRight),
   ("removeprefix", takes 1, withoutStart),
   ("removesuffix", takes 1, withoutEnd),
   ("split", takesUpTo 0 2, split (Text.splitBlank Text.Octets.isBlank) Text.splitOn),
   ("rsplit", takesUpTo 0 2, split (Text.splitBlankRight Text.Octets.isBlank) Text.splitOnRight),
   ("splitlines", takesUpTo 0 1, lines),
   ("join", takes 1, joined),
   ("partition", takes 1, partition Text.findFirst fun v => [v, .bytes [], .bytes []]),
   ("rpartition", takes 1, partition Text.findLast fun v => [.bytes [], .bytes [], v]),
   ("replace", takesUpTo 2 1, replaced),
   ("maketrans", takes 2, table),
   ("translate", takesUpTo 1 1, tabled),
   ("count", none, search "count" (.int 0) fun _ s part => .int (Text.countOf s part)),
   ("find", none, search "find" (.int (-1)) fun start s part =>
     TextRequest.position start (Text.findFirst s part)),
   ("rfind", none, search "rfind" (.int (-1)) fun start s part =>
     TextRequest.position start (Text.findLast s part)),
   ("rindex", none, surely <| search "rindex" (.int (-1)) fun start s part =>
     TextRequest.position start (Text.findLast s part)),
   ("startswith", none, touches "startswith" List.isPrefixOf),
   ("endswith", none, touches "endswith" List.isSuffixOf),
   ("decode", takesUpTo 0 2, decoded),
   ("fromhex", takes 1, ofHex),
   ("hex", none, hexDigits)]

/-- The capability of a byte string with a name. -/
def octetMethod? (bs : List UInt8) (name : String) : Option Capability :=
  (octetMethods.lookup name).map fun (signature, reply) =>
    .reading signature fun w args => reply ⟨w, .bytes bs, Text.Octets.toText bs, args⟩

end Treewalk
