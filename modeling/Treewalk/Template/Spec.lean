import Treewalk.Decimal.Places
import Treewalk.Operator.Arithmetic

/-!
# Format specifications

What stands after the colon of a replacement field: fill and alignment, sign, alternate form, width,
grouping, precision and a letter for the kind. `Treewalk.Template.formatted` writes a value to such
a specification. Only texts and numbers take one that is not empty.
-/

namespace Treewalk.Template

/-- A format specification. -/
structure Spec where
  fill : Char
  align : Char
  sign : Option Char
  noNegativeZero : Bool
  alternate : Bool
  width : Nat
  grouping : Option Char
  precision : Option Nat
  kind : Option Char

/-- Whether a character is one of the alignments. -/
def isAlign (c : Char) : Bool := c = '<' || c = '>' || c = '=' || c = '^'

/-- A number in a template that is too large. -/
def tooManyDecimals : Mishap := .value "Too many decimal digits in format string"

/-- The digits in front of a specification as a number, if there are any. -/
def takeNumber (s : List Char) : Except Mishap (Option Nat × List Char) :=
  let ds := s.takeWhile Text.isDecimal
  let rest := s.drop ds.length
  if ds.isEmpty then .ok (none, rest)
  else
    let n := ds.foldl (fun n c => n * 10 + (Text.decimal? c).getD 0) 0
    if 0x8000000000000000 ≤ n then .error tooManyDecimals
    else .ok (some n, rest)

/-- A kind that a separator between groups of digits does not go with. -/
def badGrouping (separator kind : Char) : Mishap :=
  let k := if 32 < kind.toNat && kind.toNat < 128 then String.singleton kind
    else "\\x" ++ String.ofList (Nat.toDigits 16 kind.toNat)
  .value ("Cannot specify '" ++ String.singleton separator ++ "' with '" ++ k ++ "'.")

/-- Both separators at once. -/
def bothGroupings : Mishap := .value "Cannot specify both ',' and '_'."

/-- The separator between groups of digits, if there is one. -/
def takeGrouping (s : List Char) : Except Mishap (Option Char × List Char) :=
  match s with
  | ',' :: '_' :: _ | '_' :: ',' :: _ => .error bothGroupings
  | ',' :: rest => .ok (some ',', rest)
  | '_' :: rest => .ok (some '_', rest)
  | _ => .ok (none, s)

/-- The precision, if there is one: a point and a number. -/
def takePrecision (s : List Char) : Except Mishap (Option Nat × List Char) :=
  match s with
  | '.' :: rest => do
    let (n, rest) ← takeNumber rest
    match n with
    | none => throw (.value "Format specifier missing precision")
    | some n => return (some n, rest)
  | _ => return (none, s)

/-- Takes a character if it is the given one. -/
def takeFlag (c : Char) : List Char → Bool × List Char
  | x :: rest => if x = c then (true, rest) else (false, x :: rest)
  | [] => (false, [])

/-- Whether a kind takes a separator between groups of digits. -/
def allowsGrouping (separator : Char) : Option Char → Bool
  | none => true
  | some k => k ∈ ['d', 'e', 'f', 'g', 'E', 'G', '%', 'F'] ||
      (separator = '_' && k ∈ ['b', 'o', 'x', 'X'])

/-- Reads a specification. The usual alignment depends on the type, and so does the usual kind. -/
def Spec.read (typeName : String) (usualAlign : Char) (usualKind : Option Char) (text : List Char) :
    Except Mishap Spec := do
  let (fill, align, s) := match text with
    | f :: a :: rest =>
      if isAlign a then (some f, some a, rest)
      else if isAlign f then (none, some f, a :: rest) else (none, none, text)
    | [a] => if isAlign a then (none, some a, []) else (none, none, text)
    | [] => (none, none, [])
  let (sign, s) := match s with
    | c :: rest => if c = ' ' || c = '+' || c = '-' then (some c, rest) else (none, s)
    | [] => (none, [])
  let (noNegativeZero, s) := takeFlag 'z' s
  let (alternate, s) := takeFlag '#' s
  let (zero, s) := if fill.isNone then takeFlag '0' s else (false, s)
  let (width, s) ← takeNumber s
  let (grouping, s) ← takeGrouping s
  let (precision, s) ← takePrecision s
  let kind ← match s with
    | [] => pure usualKind
    | [k] => pure (some k)
    | _ => throw (.value ("Invalid format specifier '" ++ String.ofList text ++
        "' for object of type '" ++ typeName ++ "'"))
  match grouping with
  | some g => if !allowsGrouping g kind then throw (badGrouping g (kind.getD ' '))
  | none => pure ()
  return {
    fill := fill.getD (if zero then '0' else ' ')
    align := align.getD (if zero && usualAlign = '>' then '=' else usualAlign)
    sign, noNegativeZero, alternate
    width := width.getD 0
    grouping, precision, kind }

/-- Fills a text up to a width. -/
def Spec.pad (f : Spec) (s : List Char) : List Char :=
  let n := f.width - s.length
  let left := match f.align with
    | '<' => 0
    | '^' => n / 2
    | _ => n
  List.replicate left f.fill ++ s ++ List.replicate (n - left) f.fill

/-- A kind that values of a type do not have. -/
def unknownKind (kind : Char) (typeName : String) : Mishap :=
  let k := if 32 < kind.toNat && kind.toNat < 128 then String.singleton kind
    else "\\x" ++ String.ofList (Nat.toDigits 16 kind.toNat)
  .value ("Unknown format code '" ++ k ++ "' for object of type '" ++ typeName ++ "'")

/-- Writes a text to a specification. -/
def formattedText (typeName : String) (s spec : List Char) : Except Mishap (List Char) := do
  if spec.isEmpty then return s
  let f ← Spec.read typeName '<' (some 's') spec
  if f.kind != some 's' then throw (unknownKind (f.kind.getD 's') typeName)
  match f.sign with
  | some ' ' => throw (.value "Space not allowed in string format specifier")
  | some _ => throw (.value "Sign not allowed in string format specifier")
  | none => pure ()
  if f.noNegativeZero then
    throw (.value "Negative zero coercion (z) not allowed in string format specifier")
  if f.alternate then
    throw (.value "Alternate form (#) not allowed in string format specifier")
  if f.align = '=' then throw (.value "'=' alignment not allowed in string format specifier")
  return f.pad (f.precision.elim s s.take)

/-! ### Numbers -/

/-- Digits in groups from the right, the last digit first, with zeros in front up to a width. -/
def grouped (size : Nat) (separator : Char) : (fuel : Nat) → (digits : List Char) → (width : Int) →
    List Char
  | 0, digits, _ => digits
  | fuel + 1, digits, width =>
    let count := min size (max (max digits.length width.toNat) 1)
    let group := digits.take count ++ List.replicate (count - digits.length) '0'
    let rest := digits.drop count
    if rest.isEmpty && width - (count : Int) ≤ 0 then group
    else group ++ separator :: grouped size separator fuel rest (width - count - 1)

/-- The parts of a number as text: whether it is negative, what stands in front of its digits, its
whole digits, and the rest. -/
structure NumberText where
  negative : Bool
  lead : List Char
  digits : List Char
  rest : List Char

/-- Lays out a number to a specification. -/
def Spec.layOut (f : Spec) (t : NumberText) : List Char :=
  let sign := if t.negative then ['-'] else match f.sign with
    | some '+' => ['+']
    | some ' ' => [' ']
    | _ => []
  let fixedWidth := sign.length + t.lead.length + t.rest.length
  let zeroFilled := f.fill = '0' && f.align = '='
  let least : Int := if zeroFilled then (f.width : Int) - fixedWidth else 0
  let digits := if t.digits.isEmpty then []
    else match f.grouping with
      | some g =>
        let size := if f.kind.elim false fun k => k ∈ ['b', 'o', 'x', 'X'] then 4 else 3
        (grouped size g (f.width + t.digits.length + 1) t.digits.reverse least).reverse
      | none => List.replicate (least.toNat - t.digits.length) '0' ++ t.digits
  let body := digits ++ t.rest
  if f.align = '=' then
    let n := f.width - (sign.length + t.lead.length + body.length)
    sign ++ t.lead ++ List.replicate n f.fill ++ body
  else f.pad (sign ++ t.lead ++ body)

/-- The digits of an integer in the base of a kind. -/
def intDigits (kind : Char) (n : Nat) : List Char :=
  match kind with
  | 'b' => Nat.toDigits 2 n
  | 'o' => Nat.toDigits 8 n
  | 'x' => Nat.toDigits 16 n
  | 'X' => (Nat.toDigits 16 n).map Char.toUpper
  | _ => Nat.toDigits 10 n

/-- Writes an integer to a specification of an integer kind. -/
def formattedInt (f : Spec) (kind : Char) (n : Int) : Except Mishap (List Char) := do
  if f.precision.isSome then throw (.value "Precision not allowed in integer format specifier")
  if f.noNegativeZero then
    throw (.value "Negative zero coercion (z) not allowed in integer format specifier")
  if kind = 'c' then
    if f.sign.isSome then throw (.value "Sign not allowed with integer format specifier 'c'")
    if f.alternate then
      throw (.value "Alternate form (#) not allowed with integer format specifier 'c'")
    if n < -0x8000000000000000 || 0x8000000000000000 ≤ n then
      throw (.overflow "Python int too large to convert to C long")
    if n < 0 || 0x110000 ≤ n then throw (.overflow "%c arg not in range(0x110000)")
    return f.layOut ⟨false, [], [], [Char.ofNat n.toNat]⟩
  else
    if (kind = 'd' || kind = 'n') && Decimal.isTooLong n then throw .tooManyDigits
    let lead := if f.alternate && kind ∈ ['b', 'o', 'x', 'X'] then ['0', kind] else []
    return f.layOut ⟨n < 0, lead, intDigits kind n.natAbs, []⟩

/-- The text of a double in the notation of a kind, split at the end of its whole digits. -/
def floatText (kind : Option Char) (precision : Option Nat) (alternate : Bool) (x : Float) :
    List Char × List Char :=
  let upper := kind.elim false fun k => k ∈ ['E', 'F', 'G']
  let cs := match Decimal.shape x with
    | .nan => ['n', 'a', 'n']
    | .infinite _ => ['i', 'n', 'f']
    | .finite b =>
      match kind, precision with
      | none, none =>
        let s := (Decimal.render x.abs).toList
        if alternate && !s.contains '.' then
          (s.takeWhile (· != 'e')) ++ '.' :: s.dropWhile (· != 'e')
        else s
      | none, some p => Decimal.general p alternate true b
      | some k, p =>
        if k = 'e' || k = 'E' then Decimal.scientific (p.getD 6) alternate b
        else if k = 'g' || k = 'G' || k = 'n' then Decimal.general (p.getD 6) alternate false b
        else Decimal.fixed (p.getD 6) alternate b
  let cs := if upper then cs.map Char.toUpper else cs
  (cs.takeWhile Char.isDigit, cs.dropWhile Char.isDigit)

/-- A precision beyond which doubles are not written. -/
def precisionBound : Nat := 0x80000000

/-- Writes a double to a specification. -/
def formattedFloat (f : Spec) (x : Float) : Except Mishap (List Char) := do
  if f.precision.any (precisionBound ≤ ·) then throw (.value "precision too big")
  let percent := f.kind == some '%'
  let x := if percent then x * 100 else x
  let (digits, rest) := floatText f.kind f.precision f.alternate x
  let isZero := (digits ++ rest).all fun c => !c.isDigit || c = '0'
  let negative := Decimal.isNegative x && !x.isNaN && !(f.noNegativeZero && isZero && !x.isInf)
  return f.layOut ⟨negative, [], digits, if percent then rest ++ ['%'] else rest⟩

/-- The kinds of doubles. -/
def isFloatKind (k : Char) : Bool := k ∈ ['e', 'E', 'f', 'F', 'g', 'G', '%']

/-- The kinds of integers. -/
def isIntKind (k : Char) : Bool := k ∈ ['b', 'c', 'd', 'o', 'x', 'X', 'n']

/-- Writes a value to a specification. -/
def formatted (w : World) (v : Value) (spec : List Char) : Except Mishap (List Char) := do
  let typeName := w.typeName v
  if spec.isEmpty then return (← w.display v).toList
  match v, v.int? with
  | .str s _, _ => formattedText typeName s.toList spec
  | .float x _, _ =>
    let f ← Spec.read typeName '>' none spec
    match f.kind with
    | some k => if !isFloatKind k && k != 'n' then throw (unknownKind k typeName)
    | none => pure ()
    formattedFloat f x
  | _, some n =>
    let f ← Spec.read typeName '>' (some 'd') spec
    let kind := f.kind.getD 'd'
    if isIntKind kind then formattedInt f kind n
    else if isFloatKind kind then formattedFloat f (← (Value.Number.int n).toFloat)
    else throw (unknownKind kind typeName)
  | _, none =>
    throw (.type ("unsupported format string passed to " ++ typeName ++ ".__format__"))

end Treewalk.Template
