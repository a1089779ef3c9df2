import Treewalk.Decimal.Shortest

/-!
# How a double is written

The layout of a number with a fraction: which exponents are written out, how an exponent looks,
what stands for the values that are no numbers. `Treewalk.Decimal.render` is the default text of a
double; `Treewalk.Decimal.positional` and `Treewalk.Decimal.exponential` are the two layouts it
chooses from.
-/

namespace Treewalk.Decimal

/-- The decisions of a layout. -/
structure Layout where
  /-- Numbers below `10 ^ least` are written with an exponent. -/
  least : Int
  /-- Numbers from `10 ^ greatest` on are written with an exponent. -/
  greatest : Int
  /-- The least number of digits of an exponent. -/
  exponentWidth : Nat
  nan : String
  infinity : String

/-- The layout of values: positional from a ten-thousandth up to ten to the sixteenth. -/
def Layout.value : Layout := ⟨-4, 16, 2, "nan", "inf"⟩

/-- A whole number with zeros in front. -/
def padded (width n : Nat) : List Char :=
  let ds := Nat.toDigits 10 n
  List.replicate (width - ds.length) '0' ++ ds

/-- The sign and digits of an exponent. -/
def exponentText (width : Nat) (e : Int) : List Char :=
  (if e < 0 then '-' else '+') :: padded width e.natAbs

/-- Digits with the point in its place; at least one digit on each side. -/
def positional (d : Digits) : List Char :=
  let cs := d.digits.map digitChar
  if d.point ≤ 0 then '0' :: '.' :: List.replicate (-d.point).toNat '0' ++ cs
  else
    let n := d.point.toNat
    if cs.length ≤ n then cs ++ List.replicate (n - cs.length) '0' ++ ['.', '0']
    else cs.take n ++ '.' :: cs.drop n

/-- Digits as one digit, a fraction if there is one, and an exponent. -/
def exponential (width : Nat) (d : Digits) : List Char :=
  let cs := d.digits.map digitChar
  cs.take 1 ++ (if cs.length > 1 then '.' :: cs.drop 1 else []) ++
    'e' :: exponentText width (d.point - 1)

/-- The text of a double in a layout. -/
def Layout.render (l : Layout) (x : Float) : String :=
  match shape x with
  | .nan => l.nan
  | .infinite negative => (if negative then "-" else "") ++ l.infinity
  | .finite b =>
    let digits := if b.mantissa = 0 then ⟨[0], 1⟩ else shortest b
    let body :=
      if l.least < digits.point && digits.point ≤ l.greatest then positional digits
      else exponential l.exponentWidth digits
    (if b.negative then "-" else "") ++ String.ofList body

/-- The default text of a double. -/
def render (x : Float) : String := Layout.value.render x

/-- The text of a double in base sixteen. -/
def hexText (x : Float) : String :=
  match shape x with
  | .nan => "nan"
  | .infinite negative => if negative then "-inf" else "inf"
  | .finite b =>
    let sign := if b.negative then "-" else ""
    if b.mantissa = 0 then sign ++ "0x0.0p+0"
    else
      let lead := b.mantissa / Nat.pow 2 52
      let digits := Nat.toDigits 16 (b.mantissa % Nat.pow 2 52)
      let body := List.replicate (13 - digits.length) '0' ++ digits
      let e := b.exponent + 52
      sign ++ "0x" ++ String.ofList (digitChar lead :: '.' :: body) ++ "p" ++
        String.ofList (exponentText 1 e)

end Treewalk.Decimal
