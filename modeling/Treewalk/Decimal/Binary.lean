/-!
# Floating-point numbers as exact fractions

A finite double is a whole number times a power of two (`Treewalk.Decimal.Binary`), and every
fraction has one nearest double (`Treewalk.Decimal.nearest`), the one with the even last bit when
two are equally near. All arithmetic that must be exact – printing, reading, comparing with whole
numbers, the remainder – goes through these two.
-/

namespace Treewalk.Decimal

/-- A finite double: `mantissa * 2 ^ exponent`, with its sign. -/
structure Binary where
  negative : Bool
  mantissa : Nat
  exponent : Int

/-- What a double is. -/
inductive Shape where
  | nan
  | infinite (negative : Bool)
  | finite (value : Binary)

/-- Whether the sign bit is set. -/
def isNegative (x : Float) : Bool := x.toBits.toNat ≥ Nat.pow 2 63

/-- Takes a double apart. -/
def shape (x : Float) : Shape :=
  let bits : Nat := x.toBits.toNat
  let negative : Bool := bits ≥ Nat.pow 2 63
  let field : Nat := bits / Nat.pow 2 52 % 2048
  let fraction : Nat := bits % Nat.pow 2 52
  if field = 2047 then (if fraction = 0 then .infinite negative else .nan)
  else if field = 0 then .finite ⟨negative, fraction, -1074⟩
  else .finite ⟨negative, fraction + Nat.pow 2 52, (field : Int) - 1075⟩

/-- A quotient rounded to the nearest whole number, ties to the even one. -/
def roundDiv (num den : Nat) : Nat :=
  let q := num / den
  let r := num % den
  if 2 * r < den then q else if 2 * r > den then q + 1 else if q % 2 = 0 then q else q + 1

/-- `num / den * 2 ^ (-k)` as a quotient of whole numbers. -/
def scaled (num den : Nat) (k : Int) : Nat × Nat :=
  if k ≤ 0 then (num * Nat.pow 2 (-k).toNat, den) else (num, den * Nat.pow 2 k.toNat)

/-- The bits of the nonnegative double nearest to `num / den`; past the largest one, infinity. -/
def nearestBits (num den : Nat) : Nat :=
  if num = 0 then 0
  else
    let k₀ : Int := max ((num.log2 : Int) - den.log2 - 53) (-1074)
    let (n, d) := scaled num den k₀
    let k := if n / d ≥ Nat.pow 2 53 then k₀ + 1 else k₀
    let (n, d) := scaled num den k
    let q := roundDiv n d
    let bits := if q < Nat.pow 2 52 then q else (k + 1075).toNat * Nat.pow 2 52 + (q - Nat.pow 2 52)
    min bits (2047 * Nat.pow 2 52)

/-- The double nearest to a fraction. -/
def nearest (negative : Bool) (num den : Nat) : Float :=
  Float.ofBits (UInt64.ofNat (nearestBits num den + if negative then Nat.pow 2 63 else 0))

/-- Positive infinity. -/
def infinity (negative : Bool) : Float :=
  Float.ofBits (UInt64.ofNat (2047 * Nat.pow 2 52 + if negative then Nat.pow 2 63 else 0))

/-- A number that is none. -/
def notANumber : Float := Float.ofBits (UInt64.ofNat (2047 * Nat.pow 2 52 + Nat.pow 2 51))

/-- A zero with a sign. -/
def zero (negative : Bool) : Float := nearest negative 0 1

/-- The absolute value of a finite double as a fraction. -/
def Binary.fraction (b : Binary) : Nat × Nat :=
  if b.exponent ≥ 0 then (b.mantissa * Nat.pow 2 b.exponent.toNat, 1)
  else (b.mantissa, Nat.pow 2 (-b.exponent).toNat)

/-- The double nearest to a whole number; none when it is too large for a double. -/
def ofInt? (n : Int) : Option Float :=
  let x := nearest (n < 0) n.natAbs 1
  if nearestBits n.natAbs 1 = 2047 * Nat.pow 2 52 then none else some x

/-- The whole part of a finite double. -/
def Binary.truncate (b : Binary) : Int :=
  let (n, d) := b.fraction
  let q : Int := n / d
  if b.negative then -q else q

/-- The order of a whole number and a finite double. -/
def compareInt (n : Int) (b : Binary) : Ordering :=
  let (p, q) := b.fraction
  let p : Int := if b.negative then -(p : Int) else p
  compare (n * q) p

/-- The fraction in lowest terms whose value is that of a finite double. -/
def Binary.ratio (b : Binary) : Int × Nat :=
  let (n, d) := b.fraction
  let g := Nat.gcd n d
  let n : Int := n / g
  (if b.negative then -n else n, d / g)

/-- The remainder of two finite doubles with the sign of the second, exact; the second is not
zero. -/
def remainder (x y : Binary) : Float :=
  let (a, b) := x.fraction
  let (c, d) := y.fraction
  let r := (a * d) % (c * b)
  if r = 0 then zero y.negative
  else if x.negative == y.negative then nearest y.negative r (b * d)
  else nearest y.negative (c * b - r) (b * d)

end Treewalk.Decimal
