import Treewalk.Decimal.Binary
import Treewalk.Text.Search

/-!
# Numbers read from text

The texts that stand for whole numbers and for doubles: blanks around them, a sign, digits with
single underscores between them, and for doubles a fraction, an exponent, or a word for infinity
or for no number.
-/

namespace Treewalk.Decimal

open Treewalk.Text

/-- A text as numbers are read from it: outside ASCII, blanks become spaces and decimal digits of
any script become ASCII digits. -/
def plainText (s : List Char) : List Char :=
  s.map fun c =>
    if c.toNat < 0x80 then c
    else if isBlank c then ' '
    else (decimal? c).elim c fun d => Char.ofNat (48 + d)

/-- The blanks that may stand around a number. -/
def isPadding (c : Char) : Bool := c = ' ' || ('\t' ≤ c && c ≤ '\r')

/-- A text without the blanks around it. -/
def trimmed (s : List Char) : List Char := stripRight isPadding (stripLeft isPadding s)

def isAsciiDigit (c : Char) : Bool := '0' ≤ c && c ≤ '9'

/-- Removes single underscores that stand between digits. Any other underscore is refused. -/
def dropUnderscores : (afterDigit : Bool) → List Char → Option (List Char)
  | _, [] => some []
  | afterDigit, '_' :: rest =>
    match rest with
    | c :: _ => if afterDigit && isAsciiDigit c then dropUnderscores false rest else none
    | [] => none
  | _, c :: rest => (dropUnderscores (isAsciiDigit c) rest).map (c :: ·)

/-- Takes a sign off the front; true for a minus. -/
def takeSign : List Char → Bool × List Char
  | '-' :: rest => (true, rest)
  | '+' :: rest => (false, rest)
  | s => (false, s)

/-- The value of decimal digits. -/
def natOf (ds : List Char) : Nat := ds.foldl (fun n c => n * 10 + (c.toNat - 48)) 0

/-- The value of a digit in a base up to thirty-six, written in either case. -/
def digitIn? (base : Nat) (c : Char) : Option Nat :=
  let d := if isAsciiDigit c then c.toNat - 48
    else if 'a' ≤ c && c ≤ 'z' then c.toNat - 87
    else if 'A' ≤ c && c ≤ 'Z' then c.toNat - 55 else base
  if d < base then some d else none

/-- The value of digits in a base up to thirty-six, written in either case. -/
def natIn? (base : Nat) : (acc : Nat) → List Char → Option Nat
  | acc, [] => some acc
  | acc, c :: rest => (digitIn? base c).bind fun d => natIn? base (acc * base + d) rest

/-- The longest run of decimal digits that is turned into a number, or a number into digits. -/
def maxDigits : Nat := 4300

/-- Whether an integer has too many digits to be written. -/
def isTooLong (n : Int) : Bool := Nat.pow 10 maxDigits ≤ n.natAbs

/-- What a text for a whole number is. -/
inductive IntText where
  | value (n : Int)
  | tooLong (digits : Nat)
  | invalid

/-- The letter that may stand, after a zero, in front of digits to a base. -/
def baseMark? : (base : Nat) → Option Char
  | 2 => some 'b'
  | 8 => some 'o'
  | 16 => some 'x'
  | _ => none

/-- A number without the mark of its base; an underscore may follow the mark. -/
def dropBaseMark (base : Nat) (s : List Char) : List Char :=
  match s with
  | '0' :: c :: rest =>
    if baseMark? base == some c.toLower then
      match rest with
      | '_' :: rest => rest
      | rest => rest
    else s
  | s => s

/-- Reads digits in a base, between which single underscores may stand, and blanks after them. Too
many decimal digits are noticed before anything that follows them. -/
def readDigits (base : Nat) (negative : Bool) (s : List Char) : IntText :=
  let (run, rest) := s.span fun c => c = '_' || (digitIn? base c).isSome
  let groups := splitOn ['_'] (-1) run
  let digits := groups.flatten
  if groups.any List.isEmpty then .invalid
  else if base = 10 && digits.length > maxDigits then .tooLong digits.length
  else if !rest.all isPadding then .invalid
  else
    match natIn? base 0 digits with
    | some n => .value (if negative then -(n : Int) else n)
    | none => .invalid

/-- Reads a whole number in a base: blanks, a sign, the mark of the base, and digits. -/
def readIntIn (base : Nat) (s : List Char) : IntText :=
  let (negative, body) := takeSign (stripLeft isPadding (plainText s))
  readDigits base negative (dropBaseMark base body)

/-- Reads a whole number. -/
def readInt (s : List Char) : IntText := readIntIn 10 s

/-- A decimal `mantissa * 10 ^ exponent` as the nearest double. A very large exponent is settled
without the power. -/
def ofDecimal (negative : Bool) (mantissa : Nat) (digits : Nat) (exponent : Int) : Float :=
  if mantissa = 0 then zero negative
  else if exponent + digits > 400 then infinity negative
  else if exponent + digits < -400 then zero negative
  else if exponent ≥ 0 then nearest negative (mantissa * Nat.pow 10 exponent.toNat) 1
  else nearest negative mantissa (Nat.pow 10 (-exponent).toNat)

/-- Reads the exponent that may end a number: nothing, or a mark, a sign and digits. Beyond twenty
digits an exponent is only known to be large. -/
def readExponent? : List Char → Option Int
  | [] => some 0
  | c :: rest =>
    if c == 'e' || c == 'E' then
      let (negative, ds) := takeSign rest
      if !ds.isEmpty && ds.all isAsciiDigit then
        let n : Int := natOf ((ds.dropWhile (· == '0')).take 20)
        some (if negative then -n else n)
      else none
    else none

/-- Reads an unsigned number with a fraction or exponent. -/
def readUnsigned? (negative : Bool) (s : List Char) : Option Float :=
  let whole := s.takeWhile isAsciiDigit
  let rest := s.dropWhile isAsciiDigit
  let (frac, rest) :=
    match rest with
    | '.' :: rest => (rest.takeWhile isAsciiDigit, rest.dropWhile isAsciiDigit)
    | rest => ([], rest)
  if whole.isEmpty && frac.isEmpty then none
  else
    (readExponent? rest).map fun e =>
      let ds := (whole ++ frac).dropWhile (· == '0')
      ofDecimal negative (natOf ds) ds.length (e - frac.length)

/-- Reads a double: a number, or one of the words for infinity and for no number. -/
def readFloat? (s : List Char) : Option Float :=
  let (negative, body) := takeSign (trimmed (plainText s))
  let word := String.ofList (toLower body)
  if word == "inf" || word == "infinity" then some (infinity negative)
  else if word == "nan" then some notANumber
  else (dropUnderscores false body).bind (readUnsigned? negative)

end Treewalk.Decimal
