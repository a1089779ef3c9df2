import Treewalk.Operator.Sequence
import Treewalk.Template.Spec
import Treewalk.Text.Octets

/-!
# Templates with percent signs

A conversion is a percent sign, perhaps a key in brackets, flags, a width, a precision and a letter.
Arguments are taken from a tuple one after another; any other value is a single argument, and a
container also answers keys. Byte strings are templates as well, with rules of their own for texts.
-/

namespace Treewalk.Template

/-- The arguments of a template: those left, and the value that answers keys. `unused` tells whether
there is an argument that has to be used. -/
structure Supply where
  left : List Value
  keyed : Option Value

/-- A conversion: its flags, width, precision and letter. -/
structure Conversion where
  leftAligned : Bool
  plus : Bool
  blank : Bool
  alternate : Bool
  zero : Bool
  width : Option Nat
  precision : Option Nat
  kind : Char

/-- A conversion of which only flags are known. -/
def Conversion.start (flags : List Char) : Conversion :=
  ⟨flags.contains '-', flags.contains '+', flags.contains ' ', flags.contains '#',
    flags.contains '0', none, none, ' '⟩

/-- No argument is left. -/
def notEnough : Mishap := .type "not enough arguments for format string"

/-- The template ends inside a conversion. -/
def incomplete : Mishap := .value "incomplete format"

/-- Takes the next argument. -/
def Supply.next (s : Supply) : Except Mishap (Value × Supply) :=
  match s.left with
  | v :: rest => .ok (v, { s with left := rest })
  | [] => .error notEnough

/-- The key in brackets at the front, which may hold brackets in pairs. -/
def takeKey : (depth : Nat) → List Char → Except Mishap (List Char × List Char)
  | _, [] => .error (.value "incomplete format key")
  | depth, c :: rest =>
    if c = ')' && depth = 0 then .ok ([], rest)
    else do
      let deeper := if c = '(' then depth + 1 else if c = ')' then depth - 1 else depth
      let (key, rest) ← takeKey deeper rest
      return (c :: key, rest)

/-- The value under a key of what answers keys. -/
def keyedValue (w : World) (holder key : Value) : Except Mishap Value :=
  match w.sequence? holder, holder with
  | some s, _ => do
    match ← s.subscript w key with
    | .known v => return v
    | _ => return .nil
  | none, .ref a =>
    match w.heap.cell? a with
    | some (.dict entries) =>
      match w.findEntry key entries with
      | some v => .ok v
      | none => .error (w.missingKey key)
    | _ => .error (w.missingKey key)
  | none, _ => .error (w.missingKey key)

/-- What bounds a width or a precision, and what is said of one beyond it: where it is written, and
where it is an argument. -/
structure Limit where
  bound : Int
  written : Mishap
  given : Mishap

/-- The limit of widths. -/
def widthLimit : Limit :=
  ⟨0x8000000000000000, .value "width too big", .overflow "Python int too large to convert to C ssize_t"⟩

/-- The limit of precisions. -/
def precisionLimit (octets : Bool) : Limit :=
  ⟨precisionBound, .value (if octets then "prec too big" else "precision too big"),
    .overflow "Python int too large to convert to C int"⟩

/-- A width or a precision: a number, or a star for the next argument. -/
def takeAmount (limit : Limit) (s : List Char) (supply : Supply) :
    Except Mishap (Option Int × List Char × Supply) := do
  match s with
  | '*' :: rest =>
    let (v, supply) ← supply.next
    match v.int? with
    | some n =>
      if limit.bound ≤ n || n < -limit.bound then throw limit.given
      return (some n, rest, supply)
    | none => throw (.type "* wants int")
  | _ =>
    let ds := s.takeWhile Char.isDigit
    let n := Decimal.natOf ds
    if limit.bound ≤ n then throw limit.written
    return (if ds.isEmpty then none else some n, s.drop ds.length, supply)

/-- The largest number of digits that an integer can be asked for. -/
def maxPrecision : Nat := 0x7ffffffc

/-- An integer as digits with a sign: at least as many digits as the precision says. -/
def percentInt (c : Conversion) (n : Int) : Except Mishap NumberText := do
  if maxPrecision < c.precision.getD 0 then throw (.overflow "precision too large")
  let isDecimal := !(c.kind ∈ ['o', 'x', 'X'])
  if isDecimal && Decimal.isTooLong n then throw .tooManyDigits
  let digits := intDigits c.kind n.natAbs
  let digits := List.replicate (c.precision.getD 0 - digits.length) '0' ++ digits
  let lead := if c.alternate && !isDecimal then ['0', c.kind] else []
  return ⟨n < 0, lead, digits, []⟩

/-- Puts a number between blanks or zeros up to the width. -/
def Conversion.layOut (c : Conversion) (t : NumberText) : List Char :=
  let sign := if t.negative then ['-'] else if c.plus then ['+'] else if c.blank then [' '] else []
  let body := t.digits ++ t.rest
  let gap := c.width.getD 0 - (sign.length + t.lead.length + body.length)
  if c.leftAligned then sign ++ t.lead ++ body ++ List.replicate gap ' '
  else if c.zero then sign ++ t.lead ++ List.replicate gap '0' ++ body
  else List.replicate gap ' ' ++ sign ++ t.lead ++ body

/-- Puts a text between blanks up to the width. -/
def Conversion.pad (c : Conversion) (s : List Char) : List Char :=
  let gap := List.replicate (c.width.getD 0 - s.length) ' '
  if c.leftAligned then s ++ gap else gap ++ s

/-- The integer that a number is cut to. -/
def truncated (x : Float) : Except Mishap Int :=
  match Decimal.shape x with
  | .finite b => .ok b.truncate
  | .infinite _ => .error (.overflow "cannot convert float infinity to integer")
  | .nan => .error (.value "cannot convert float NaN to integer")

/-- A value that is not of the sort a conversion takes. -/
def wrongSort (w : World) (kind : Char) (v : Value) : Mishap :=
  let wanted := if kind ∈ ['o', 'x', 'X'] then "an integer" else "a real number"
  .type ("%" ++ String.singleton kind ++ " format: " ++ wanted ++ " is required, not " ++
    w.typeName v)

/-- The integer for an integer conversion. -/
def integerFor (w : World) (kind : Char) (v : Value) : Except Mishap Int :=
  match v.number? with
  | some (.int n) => .ok n
  | some (.float x) =>
    if kind ∈ ['o', 'x', 'X'] then .error (wrongSort w kind v) else truncated x
  | none => .error (wrongSort w kind v)

/-- Writes a number to an integer or a double conversion. -/
def percentNumber (w : World) (octets : Bool) (c : Conversion) (v : Value) :
    Except Mishap (List Char) := do
  if c.kind ∈ ['d', 'i', 'u', 'o', 'x', 'X'] then
    let kind := if octets && c.kind = 'i' then 'd' else c.kind
    return c.layOut (← percentInt c (← integerFor w kind v))
  else
    match v.number? with
    | none => throw (if octets then notReal else .type ("must be real number, not " ++ w.typeName v))
    | some x =>
      let x ← x.toFloat.mapError fun m => if octets then notReal else m
      let (digits, rest) := floatText (some c.kind) c.precision c.alternate x
      return c.layOut ⟨Decimal.isNegative x && !x.isNaN, [], digits, rest⟩
where
  notReal : Mishap := .type ("float argument required, not " ++ w.typeName v)

/-- The character for a character conversion. -/
def percentChar (v : Value) : Except Mishap (List Char) :=
  match v, v.int? with
  | .str s _, _ =>
    if s.length = 1 then .ok s.toList else .error (.type "%c requires int or char")
  | _, some n =>
    if n < 0 || 0x110000 ≤ n then .error (.overflow "%c arg not in range(0x110000)")
    else .ok [Char.ofNat n.toNat]
  | _, none => .error (.type "%c requires int or char")

/-- Whether a letter is that of a number. -/
def isNumberKind (k : Char) : Bool :=
  k ∈ ['d', 'i', 'u', 'o', 'x', 'X', 'e', 'E', 'f', 'F', 'g', 'G']

/-- A letter that is no conversion. It is shown if a text may show it; a byte string shows all of
ASCII and says nothing of what is beyond. -/
def unsupportedKind (octets : Bool) (k : Char) (index : Nat) : Mishap :=
  let shown := if octets || (31 ≤ k.toNat && k.toNat ≤ 126) then k else '?'
  if octets && 0x80 ≤ k.toNat then .value ""
  else .value ("unsupported format character '" ++ String.singleton shown ++ "' (0x" ++
    String.ofList (Nat.toDigits 16 k.toNat) ++ ") at index " ++ toString index)

/-- Writes a value to a conversion of a text. -/
def percentText (w : World) (c : Conversion) (index : Nat) (v : Value) :
    Except Mishap (List Char) := do
  let cut := fun (s : String) => c.pad (c.precision.elim s.toList s.toList.take)
  if isNumberKind c.kind then percentNumber w false c v
  else match c.kind with
    | 's' => return cut (← w.display v)
    | 'r' => return cut (← w.shown v)
    | 'a' => return cut (Text.escapeWide (← w.shown v))
    | 'c' => return c.pad (← percentChar v)
    | k => throw (unsupportedKind false k index)

/-- Writes a value to a conversion of a byte string. -/
def percentOctets (w : World) (c : Conversion) (index : Nat) (v : Value) :
    Except Mishap (List Char) := do
  let cut := fun (s : List Char) => c.pad (c.precision.elim s s.take)
  if isNumberKind c.kind then percentNumber w true c v
  else match c.kind, v with
    | 's', .bytes bs | 'b', .bytes bs => return cut (Text.Octets.toText bs)
    | 's', _ | 'b', _ =>
      throw (.type ("%b requires a bytes-like object, or an object that implements __bytes__, " ++
        "not '" ++ w.typeName v ++ "'"))
    | 'r', _ | 'a', _ => return cut (Text.escapeWide (← w.shown v)).toList
    | 'c', .bytes [b] => return c.pad [Text.Octets.toChar b]
    | 'c', _ =>
      match v.int? with
      | some n =>
        if n < 0 || 256 ≤ n then throw (.overflow "%c arg not in range(256)")
        return c.pad [Char.ofNat n.toNat]
      | none => throw (.type "%c requires an integer in range(256) or a single byte")
    | k, _ => throw (unsupportedKind true k index)

/-- Writes a value to a conversion. -/
def percentValue (w : World) (octets : Bool) (c : Conversion) (index : Nat) (v : Value) :
    Except Mishap (List Char) :=
  if octets then percentOctets w c index v else percentText w c index v

/-- Takes a key in brackets, if there is one; what it names is then the only argument left. -/
def takeKeyed (w : World) (octets : Bool) (supply : Supply) (s : List Char) :
    Except Mishap (Supply × List Char) :=
  match s with
  | '(' :: more =>
    match supply.keyed with
    | none => .error (.type "format requires a mapping")
    | some holder => do
      let (key, more) ← takeKey 0 more
      let key := if octets then Value.bytes (key.map fun c => c.toNat.toUInt8) else .chars key
      return ({ supply with left := [← keyedValue w holder key] }, more)
  | _ => .ok (supply, s)

/-- Takes a precision, if there is one; a negative one is zero. -/
def takePlaces (octets : Bool) (s : List Char) (supply : Supply) :
    Except Mishap (Option Nat × List Char × Supply) :=
  match s with
  | '.' :: more => do
    let (n, more, supply) ← takeAmount (precisionLimit octets) more supply
    return (some (n.getD 0).toNat, more, supply)
  | _ => .ok (none, s, supply)

/-- A length in front of a letter says nothing. -/
def dropLength (s : List Char) : List Char :=
  match s with
  | 'h' :: more | 'l' :: more | 'L' :: more => more
  | _ => s

/-- Takes a conversion after its percent sign and its key. A negative width aligns to the left. -/
def takeConversion (octets : Bool) (supply : Supply) (s : List Char) :
    Except Mishap (Conversion × List Char × Supply) := do
  let flags := s.takeWhile fun c => c ∈ ['-', '+', ' ', '#', '0']
  let c := Conversion.start flags
  let (width, rest, supply) ← takeAmount widthLimit (s.drop flags.length) supply
  let (precision, rest, supply) ← takePlaces octets rest supply
  match dropLength rest with
  | [] => throw incomplete
  | k :: rest =>
    let c := { c with
      width := width.map Int.natAbs
      leftAligned := c.leftAligned || width.any (· < 0)
      precision := precision
      kind := k }
    return (c, rest, supply)

/-- Fills the conversions of a template of the given length. -/
def percent (w : World) (octets : Bool) (length : Nat) : (fuel : Nat) → Supply → List Char →
    Except Mishap (List Char × Supply)
  | 0, supply, _ => .ok ([], supply)
  | _, supply, [] => .ok ([], supply)
  | fuel + 1, supply, '%' :: '%' :: rest => do
    let (s, supply) ← percent w octets length fuel supply rest
    return ('%' :: s, supply)
  | fuel + 1, supply, '%' :: rest => do
    let (supply, rest) ← takeKeyed w octets supply rest
    let (c, rest, supply) ← takeConversion octets supply rest
    let (v, supply) ← supply.next
    let text ← percentValue w octets c (length - rest.length - 1) v
    let (s, supply) ← percent w octets length fuel supply rest
    return (text ++ s, supply)
  | fuel + 1, supply, c :: rest => do
    let (s, supply) ← percent w octets length fuel supply rest
    return (c :: s, supply)

/-- The arguments that a value is, for a template that is a text or a byte string. -/
def supplyOf (w : World) (octets : Bool) (v : Value) : Supply :=
  match v, w.sequence? v with
  | .ref _, some (.tuple items) => ⟨items, none⟩
  | .ref a, _ =>
    match w.heap.cell? a with
    | some (.list _) | some (.dict _) => ⟨[v], some v⟩
    | _ => ⟨[v], none⟩
  | .bytes _, _ => ⟨[v], if octets then none else some v⟩
  | _, _ => ⟨[v], none⟩

/-- Fills a template. All arguments have to be used, unless they answer keys. -/
def fillPercent (w : World) (octets : Bool) (template : List Char) (args : Value) :
    Except Mishap (List Char) := do
  let supply := supplyOf w octets args
  let (s, after) ← percent w octets template.length (template.length + 1) supply template
  if !after.left.isEmpty && after.keyed.isNone then
    throw (.type ("not all arguments converted during " ++ (if octets then "bytes" else "string") ++
      " formatting"))
  return s

/-- Fills a template that is a text. One that has nothing to fill is handed back as it is. -/
def fillText (w : World) (template : Value) (text : List Char) (args : Value) :
    Except Mishap Answer := do
  let filled ← fillPercent w false text args
  return if text.isEmpty || text.contains '%' then .chars filled else .known template

end Treewalk.Template
