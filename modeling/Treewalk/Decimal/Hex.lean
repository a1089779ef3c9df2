import Treewalk.Decimal.Reader

/-!
# Doubles read from hexadecimal digits

A double may be given by hexadecimal digits with a point and a power of two, as in `-0x1.8p+3`, or
by a word for infinity or for no number. It is the double nearest to that value.
-/

namespace Treewalk.Decimal

open Treewalk.Text

/-- Why digits are no double. -/
inductive HexProblem where
  | invalid
  | tooLarge
  deriving DecidableEq, Repr

/-- The words for infinity and for no number, longer ones first. -/
def wordIn? (s : List Char) : Option (Bool × List Char) :=
  [("infinity", true), ("inf", true), ("nan", false)].findSome? fun (word, infinite) =>
    if word.toList.isPrefixOf (s.map Char.toLower) then some (infinite, s.drop word.length) else none

/-- The value `mantissa * 2 ^ exponent` as the nearest double. An exponent far beyond the number of
digits is settled without the power. -/
def ofBinary (negative : Bool) (mantissa digits : Nat) (exponent : Int) :
    Except HexProblem Float :=
  if mantissa = 0 then .ok (zero negative)
  else if exponent < -(4 * digits + 1100 : Int) then .ok (zero negative)
  else if 1100 < exponent then .error .tooLarge
  else
    let (num, den) := if exponent ≥ 0 then (mantissa * Nat.pow 2 exponent.toNat, 1)
      else (mantissa, Nat.pow 2 (-exponent).toNat)
    if nearestBits num den = 2047 * Nat.pow 2 52 then .error .tooLarge
    else .ok (nearest negative num den)

/-- The power of two that may follow the digits, and what stands behind it. -/
def takePower : List Char → Option (Int × List Char)
  | [] => some (0, [])
  | c :: rest =>
    if c = 'p' || c = 'P' then
      let (negative, rest) := takeSign rest
      let ds := rest.takeWhile isAsciiDigit
      let n : Int := natOf ((ds.dropWhile (· == '0')).take 20)
      if ds.isEmpty then none
      else some (if negative then -n else n, rest.dropWhile isAsciiDigit)
    else some (0, c :: rest)

/-- Reads digits, with or without the mark of their base, up to the blanks at the end. -/
def readHexDigits (negative : Bool) (s : List Char) : Except HexProblem Float :=
  let isHex (c : Char) : Bool := (digitIn? 16 c).isSome
  let s := match s with
    | '0' :: c :: rest => if c = 'x' || c = 'X' then rest else s
    | s => s
  let whole := s.takeWhile isHex
  let (fraction, rest) := match s.dropWhile isHex with
    | '.' :: rest => (rest.takeWhile isHex, rest.dropWhile isHex)
    | rest => ([], rest)
  let digits := whole ++ fraction
  match takePower rest, natIn? 16 0 digits with
  | some (power, rest), some mantissa =>
    if digits.isEmpty || !rest.all isPadding then .error .invalid
    else ofBinary negative mantissa digits.length (power - 4 * fraction.length)
  | _, _ => .error .invalid

/-- Reads a double from hexadecimal digits or a word. -/
def readHex (s : List Char) : Except HexProblem Float :=
  let (negative, body) := takeSign (stripLeft isPadding s)
  match wordIn? body with
  | some (infinite, rest) =>
    if !rest.all isPadding then .error .invalid
    else .ok (if infinite then infinity negative else notANumber)
  | none => readHexDigits negative body

end Treewalk.Decimal
