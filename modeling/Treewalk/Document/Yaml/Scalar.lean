import Treewalk.Decimal.Reader
import Treewalk.Document.Basic
import Treewalk.Document.Yaml.Problem

/-!
# Plain scalars

A plain scalar is a text unless it has the form of something else. `Treewalk.Yaml.Tag.ofPlain` says
what a plain text is, and `Treewalk.Yaml.Scalar.construct` makes a document of a text with a given
tag. The forms are those of YAML 1.1: `yes` is a truth value, `0o7` a text, `1:30` a number.
-/

namespace Treewalk.Yaml

open Treewalk.Decimal

/-- What a node is. -/
inductive Tag where
  | nil
  | bool
  | int
  | float
  | timestamp
  | str
  | sequence
  | mapping
  | merge
  | value
  | yaml
  | other (name : String)
  deriving DecidableEq

namespace Tag

/-- What all standard tags start with. -/
def stem : String := "tag:yaml.org,2002:"

/-- A tag written out. -/
def name : Tag → String
  | .nil => stem ++ "null"
  | .bool => stem ++ "bool"
  | .int => stem ++ "int"
  | .float => stem ++ "float"
  | .timestamp => stem ++ "timestamp"
  | .str => stem ++ "str"
  | .sequence => stem ++ "seq"
  | .mapping => stem ++ "map"
  | .merge => stem ++ "merge"
  | .value => stem ++ "value"
  | .yaml => stem ++ "yaml"
  | .other n => n

/-- The tags with a name of their own. -/
def standard : List Tag :=
  [.nil, .bool, .int, .float, .timestamp, .str, .sequence, .mapping, .merge, .value, .yaml]

/-- The tag with a name. The tags of octets, sets, ordered mappings and pairs are not among the
standard ones here, and are refused like unknown tags. -/
def ofName (n : String) : Tag := (standard.find? fun t => t.name = n).getD (.other n)

/-! ### The forms of plain scalars -/

def isDigitOrLow (c : Char) : Bool := c.isDigit || c = '_'

/-- A text without its sign. -/
def unsigned : List Char → List Char
  | '-' :: s | '+' :: s => s
  | s => s

/-- Whether a text is an exponent with its sign, or nothing. -/
def isExponent : List Char → Bool
  | [] => true
  | e :: sign :: ds => (e = 'e' || e = 'E') && (sign = '+' || sign = '-') &&
      !ds.isEmpty && ds.all Char.isDigit
  | _ => false

/-- The groups of a number to base sixty, after the first: what follows them, if there is at least
one group. -/
def sixties : (fuel : Nat) → List Char → Option (List Char)
  | 0, _ => none
  | fuel + 1, ':' :: s =>
    let ds := s.takeWhile Char.isDigit
    let isGroup := ds.length = 1 || (ds.length = 2 && ds.headD '9' ≤ '5')
    if isGroup then
      let rest := s.drop ds.length
      if rest.head? == some ':' then sixties fuel rest else some rest
    else none
  | _, _ => none

/-- Whether a text has the form of a double. -/
def isFloat (s : List Char) : Bool :=
  let u := unsigned s
  isDecimal u || isPointed s || isSixties u ||
    u ∈ [".inf".toList, ".Inf".toList, ".INF".toList] ||
    s ∈ [".nan".toList, ".NaN".toList, ".NAN".toList]
where
  isDecimal (u : List Char) : Bool :=
    (u.headD 'x').isDigit &&
      match u.dropWhile isDigitOrLow with
      | '.' :: s => isExponent (s.dropWhile isDigitOrLow)
      | _ => false
  isPointed : List Char → Bool
    | '.' :: s => (s.headD 'x').isDigit && isExponent (s.dropWhile isDigitOrLow)
    | _ => false
  isSixties (u : List Char) : Bool :=
    (u.headD 'x').isDigit &&
      match sixties u.length (u.dropWhile isDigitOrLow) with
      | some ('.' :: s) => s.all isDigitOrLow
      | _ => false

/-- Whether a text has the form of an integer. -/
def isInt (s : List Char) : Bool :=
  match unsigned s with
  | ['0'] => true
  | '0' :: 'b' :: ds => !ds.isEmpty && ds.all fun c => c = '0' || c = '1' || c = '_'
  | '0' :: 'x' :: ds => !ds.isEmpty && ds.all fun c => c = '_' || (natIn? 16 0 [c]).isSome
  | '0' :: ds => ds.all fun c => c = '_' || ('0' ≤ c && c ≤ '7')
  | c :: ds =>
    c.isDigit && (ds.all isDigitOrLow || sixties ds.length (ds.dropWhile isDigitOrLow) == some [])
  | [] => false

/-- The texts that stand for truth values. -/
def truths : List (String × Bool) :=
  [("yes", true), ("no", false), ("true", true), ("false", false), ("on", true), ("off", false)]

/-- Whether a text is a word in small letters, in capitals, or with a capital first. -/
def isCaseOf (word : String) (s : List Char) : Bool :=
  let w := word.toList
  s = w || s = Text.toUpper w || s = Text.capitalize w

end Tag

/-- The parts of a timestamp's time of day: hour, minute, second, digits of the fraction, and the
distance from universal time in seconds. -/
structure ClockText where
  hour : Nat
  minute : Nat
  second : Nat
  fraction : List Char
  offset : Option Int

/-- The parts of a timestamp. -/
structure StampText where
  year : Nat
  month : Nat
  day : Nat
  clock : Option ClockText

namespace StampText

/-- Takes between `least` and `most` digits, as many as there are. -/
def digits (least most : Nat) (s : List Char) : Option (Nat × Nat × List Char) :=
  let ds := (s.takeWhile Char.isDigit).take most
  if ds.length < least then none else some (natOf ds, ds.length, s.drop ds.length)

/-- Takes a character. -/
def char (c : Char) : List Char → Option (List Char)
  | x :: s => if x = c then some s else none
  | [] => none

def isTabOrSpace (c : Char) : Bool := c = ' ' || c = '\t'

/-- The distance from universal time at the end of a timestamp. -/
def zone (s : List Char) : Option (Option Int) :=
  match s.dropWhile isTabOrSpace with
  | [] => if s.isEmpty then some none else none
  | ['Z'] => some (some 0)
  | sign :: rest =>
    if sign = '+' || sign = '-' then do
      let (hours, _, rest) ← digits 1 2 rest
      let minutes ← match rest with
        | [] => some 0
        | ':' :: rest => do
          let (n, _, rest) ← digits 2 2 rest
          if rest.isEmpty then some n else none
        | _ => none
      let seconds : Int := hours * 3600 + minutes * 60
      return some (if sign = '-' then -seconds else seconds)
    else none

/-- The time of day of a timestamp. -/
def readClock (s : List Char) : Option ClockText := do
  let s ← match s with
    | 'T' :: s | 't' :: s => some s
    | c :: s => if isTabOrSpace c then some (s.dropWhile isTabOrSpace) else none
    | [] => none
  let (hour, _, s) ← digits 1 2 s
  let (minute, _, s) ← digits 2 2 (← char ':' s)
  let (second, _, s) ← digits 2 2 (← char ':' s)
  let (fraction, s) := match s with
    | '.' :: s => s.span Char.isDigit
    | s => ([], s)
  return ⟨hour, minute, second, fraction, ← zone s⟩

/-- Reads a timestamp. A day alone has two digits for the month and two for the day. -/
def read? (s : List Char) : Option StampText := do
  let (year, _, s) ← digits 4 4 s
  let (month, m, s) ← digits 1 2 (← char '-' s)
  let (day, d, s) ← digits 1 2 (← char '-' s)
  if s.isEmpty then
    if m = 2 && d = 2 then return ⟨year, month, day, none⟩ else none
  else return ⟨year, month, day, some (← readClock s)⟩

end StampText

/-- A text without the line feed that may end it. -/
def withoutFeed (s : List Char) : List Char := if s.getLast? == some '\n' then s.dropLast else s

/-- What a plain text is. A line feed at its end does not matter, unless it is all there is. -/
def Tag.ofPlain (text : String) : Tag :=
  let s := withoutFeed text.toList
  if truths.any fun t => isCaseOf t.1 s then .bool
  else if isFloat s then .float
  else if isInt s then .int
  else if s = ['<', '<'] then .merge
  else if text.isEmpty || s = ['~'] || isCaseOf "null" s then .nil
  else if (StampText.read? s).isSome then .timestamp
  else if s = ['='] then .value
  else if s = ['!'] || s = ['&'] || s = ['*'] then .yaml
  else .str

namespace Scalar

/-- An integer in a base. -/
def intIn (base : Nat) (text : List Char) : Except Refusal Int :=
  match readIntIn base text with
  | .value n => .ok n
  | .tooLong n => .error (.mishap (.tooManyDigitsRead n))
  | .invalid => .error (.mishap (.value ("invalid literal for int() with base " ++ toString base ++
      ": " ++ String.ofList ((Text.quoted text).take 200))))

/-- The first character of a text that has none. -/
def noText : Refusal := .mishap (.index "string index out of range")

/-- Reads an integer: binary, octal, hexadecimal, to base sixty, or decimal. -/
def int (text : List Char) : Except Refusal Int := do
  let s := text.filter (· != '_')
  let negative := s.head? == some '-'
  let u := Tag.unsigned s
  let n ← match u with
    | [] => .error noText
    | ['0'] => .ok 0
    | '0' :: 'b' :: ds => intIn 2 ds
    | '0' :: 'x' :: ds => intIn 16 ds
    | '0' :: _ => intIn 8 u
    | _ => (Text.splitOn [':'] (-1) u).foldlM (fun n part => return n * 60 + (← intIn 10 part)) 0
  return if negative then -n else n

/-- A double whose text is wrong. -/
def floatIn (text : List Char) : Except Refusal Float :=
  match readFloat? text with
  | some x => .ok x
  | none => .error (.mishap (.value ("could not convert string to float: " ++
      Text.quote (String.ofList text))))

/-- The sum of the groups of a number to base sixty, the last group first. -/
def sumSixties : (base : Nat) → (sum : Float) → List Float → Except Refusal Float
  | _, sum, [] => .ok sum
  | base, sum, x :: rest =>
    let b := nearest false base 1
    if b.isInf then .error (.mishap (.overflow "int too large to convert to float"))
    else sumSixties (base * 60) (sum + x * b) rest

/-- The mark of what is written as not a number: all of them are one object. -/
def nanMark : Nat := 2

/-- A double; one that turned out to be no number is an object of its own. -/
def computed (label : Nat) (x : Float) : Literal := .float x (if x.isNaN then nanMark + 1 + label else 0)

/-- Reads a double: infinite, not a number, to base sixty, or decimal. -/
def float (label : Nat) (text : List Char) : Except Refusal Literal := do
  let s := Text.toLower (text.filter (· != '_'))
  if s.isEmpty then throw noText
  let negative := s.head? == some '-'
  let u := Tag.unsigned s
  if u = ".nan".toList then return .float notANumber nanMark
  let x ← if u = ".inf".toList then pure (infinity false)
    else if u.contains ':' then do
      let parts ← (Text.splitOn [':'] (-1) u).mapM floatIn
      sumSixties 1 0 parts.reverse
    else floatIn u
  return computed label (if negative then -x else x)

/-- The document of a timestamp. -/
def timestamp (label : Option Nat) (t : StampText) : Except DateFault Document := do
  match t.clock with
  | none => return .date label (← Date.make t.year t.month t.day)
  | some c =>
    match c.offset with
    | some s => if 86400 ≤ s.natAbs then throw (.offset s)
    | none => pure ()
    let micros := natOf ((c.fraction ++ List.replicate 6 '0').take 6)
    let date ← Date.make t.year t.month t.day
    return .moment label (← Moment.make date c.hour c.minute c.second micros c.offset)

/-- Makes a document of a text with a tag. -/
def construct (label : Nat) (line : Nat) (tag : Tag) (text : String) : Except Refusal Document :=
  let s := text.toList
  match tag with
  | .nil => .ok .nil
  | .bool =>
    match Tag.truths.lookup (String.ofList (Text.toLower s)) with
    | some b => .ok (.bool b)
    | none => .error (.mishap (.missingKey (String.ofList (Text.toLower s))))
  | .int => do return .int (← int s)
  | .float => do return .literal (← float label s)
  | .timestamp =>
    match StampText.read? (withoutFeed s) with
    | none => .error (.mishap (.noProperty "NoneType" "groupdict"))
    | some t => (timestamp (some label) t).mapError fun f => .mishap (.value f.message)
  | .str => .ok (.str text)
  | .sequence => .error (.problem (.wantedSort .sequence .scalar) line)
  | .mapping => .error (.problem (.wantedSort .mapping .scalar) line)
  | .merge | .value | .yaml | .other _ => .error (.problem (.unknownTag tag.name) line)

end Scalar

end Treewalk.Yaml
