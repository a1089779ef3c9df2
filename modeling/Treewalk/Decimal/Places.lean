import Treewalk.Decimal.Layout

/-!
# Doubles with a given number of digits

The three notations of templates: `fixed` with a number of decimals, `scientific` with a number of
digits after the first, and `general`, which takes the shorter of the two for a number of digits.
The texts are those of absolute values; signs are the business of the caller.
-/

namespace Treewalk.Decimal

/-- A point and decimals after it; the point alone only if it is kept. -/
def withPoint (keepPoint : Bool) (decimals : List Char) : List Char :=
  if decimals.isEmpty && !keepPoint then [] else '.' :: decimals

/-- A number with a fixed number of decimals. -/
def fixed (places : Nat) (keepPoint : Bool) (b : Binary) : List Char :=
  let (num, den) := b.fraction
  let n := fixedPoint num den places
  padded 1 (n / Nat.pow 10 places) ++
    withPoint keepPoint (if places = 0 then [] else padded places (n % Nat.pow 10 places))

/-- The digits of a number rounded to a count of digits. -/
def roundedDigits (count : Nat) (b : Binary) : Digits :=
  let (num, den) := b.fraction
  if num = 0 then ⟨List.replicate count 0, 1⟩ else significant num den count

/-- A number with one digit before the point and an exponent. -/
def scientific (places : Nat) (keepPoint : Bool) (b : Binary) : List Char :=
  let d := roundedDigits (places + 1) b
  let cs := d.digits.map digitChar
  cs.take 1 ++ withPoint keepPoint (cs.drop 1) ++ 'e' :: exponentText 2 (d.point - 1)

/-- Digits without the zeros at their end. -/
def trimZeros (ds : List Char) : List Char := (ds.reverse.dropWhile (· = '0')).reverse

/-- A number with a count of digits, positional or with an exponent. Zeros at the end go unless the
point is kept. With `oneDecimal` a positional text has at least one decimal. -/
def general (count : Nat) (keepPoint oneDecimal : Bool) (b : Binary) : List Char :=
  let count := max count 1
  let d := roundedDigits count b
  let cs := d.digits.map digitChar
  let cs := if keepPoint then cs else trimZeros cs
  let cs := if cs.isEmpty then ['0'] else cs
  let limit : Int := if oneDecimal then count - 1 else count
  if d.point ≤ -4 || limit < d.point then
    cs.take 1 ++ withPoint keepPoint (cs.drop 1) ++ 'e' :: exponentText 2 (d.point - 1)
  else if d.point ≤ 0 then
    '0' :: '.' :: (List.replicate (-d.point).toNat '0' ++ cs)
  else
    let n := d.point.toNat
    let whole := cs.take n ++ List.replicate (n - cs.length) '0'
    let decimals := cs.drop n
    whole ++ withPoint keepPoint (if oneDecimal && decimals.isEmpty then ['0'] else decimals)

end Treewalk.Decimal
