import Treewalk.Decimal.Binary

/-!
# The fewest digits that read back

Among all decimals that round to a given double, the one with the fewest digits, and of those the
nearest. For one digit, two digits and so on, the two neighbours of the value on that decimal grid
are tried; the first grid with a neighbour inside the rounding interval wins.
-/

namespace Treewalk.Decimal

/-- Decimal digits with a point: the value is `0.d₁d₂… * 10 ^ point`. -/
structure Digits where
  digits : List Nat
  point : Int
  deriving DecidableEq

/-- The decimal digits of a whole number, highest first. -/
def digitsOf (n : Nat) : List Nat := (Nat.toDigits 10 n).map fun c => c.toNat - 48

/-- A digit as a character. -/
def digitChar (d : Nat) : Char := Char.ofNat (48 + d)

/-- `num / den * 10 ^ (-k)` as a quotient of whole numbers. -/
def scaledTen (num den : Nat) (k : Int) : Nat × Nat :=
  if k ≤ 0 then (num * Nat.pow 10 (-k).toNat, den) else (num, den * Nat.pow 10 k.toNat)

/-- Moves an estimate until `10 ^ (p - 1) ≤ num / den < 10 ^ p`. -/
def adjustPoint (num den : Nat) : (fuel : Nat) → Int → Int
  | 0, p => p
  | fuel + 1, p =>
    let (n, d) := scaledTen num den p
    if n ≥ d then adjustPoint num den fuel (p + 1)
    else
      let (n, d) := scaledTen num den (p - 1)
      if n < d then adjustPoint num den fuel (p - 1) else p

/-- The power of ten just above a positive fraction. -/
def pointOf (num den : Nat) : Int :=
  adjustPoint num den 8 ((((num.log2 : Int) - den.log2) * 30103) / 100000)

/-- The neighbour of `v` on a grid that lies in the interval, if one does: the nearer of the two,
the even one of two equally near. All numbers share the denominator `den`, and `unit` is the
width of the grid in the same measure. -/
def neighbour (low v high unit : Nat) (closed : Bool) : Option Nat :=
  let q := v / unit
  let inside := fun c => if closed then low ≤ c * unit && c * unit ≤ high
    else low < c * unit && c * unit < high
  let below := 0 < q && inside q
  let above := inside (q + 1)
  if below && above then
    let r := 2 * (v % unit)
    some (if r < unit then q else if r > unit then q + 1 else if q % 2 = 0 then q else q + 1)
  else if below then some q
  else if above then some (q + 1)
  else none

/-- Tries grids of `n`, `n + 1`, … digits. -/
def searchDigits (low v high den : Nat) (point : Int) (closed : Bool) :
    (fuel n : Nat) → Digits
  | 0, _ => ⟨[0], 1⟩
  | fuel + 1, n =>
    -- the grid of `n` digits has the width `10 ^ (point - n)`
    let k := point - n
    let s := if k < 0 then Nat.pow 10 (-k).toNat else 1
    let unit := if k < 0 then den else den * Nat.pow 10 k.toNat
    match neighbour (low * s) (v * s) (high * s) unit closed with
    | some c =>
      let ds := digitsOf c
      ⟨(ds.reverse.dropWhile (· == 0)).reverse, point + (ds.length : Int) - n⟩
    | none => searchDigits low v high den point closed fuel (n + 1)

/-- The shortest digits of a positive double. -/
def shortest (b : Binary) : Digits :=
  let tight : Bool := b.mantissa = Nat.pow 2 52 && b.exponent > -1074
  let e := b.exponent - 2
  let m := 4 * b.mantissa
  let low := if tight then m - 1 else m - 2
  let f := if e ≥ 0 then Nat.pow 2 e.toNat else 1
  let den := if e ≥ 0 then 1 else Nat.pow 2 (-e).toNat
  searchDigits (low * f) (m * f) ((m + 2) * f) den (pointOf (m * f) den)
    (b.mantissa % 2 = 0) 18 1

/-- The digits of a positive fraction rounded to `n > 0` digits, ties to even. -/
def significant (num den n : Nat) : Digits :=
  let p := pointOf num den
  let (a, b) := scaledTen num den (p - n)
  let ds := digitsOf (roundDiv a b)
  ⟨ds.take n, p + (ds.length : Int) - n⟩

/-- A fraction rounded to `places` decimals, as the whole number of its smallest places. -/
def fixedPoint (num den places : Nat) : Nat := roundDiv (num * Nat.pow 10 places) den

end Treewalk.Decimal
