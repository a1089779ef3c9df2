import Treewalk.Operator.Compare

/-!
# Arithmetic

The arithmetic of integers of any size and of doubles. A truth value is one or zero. An operation on
an integer and a double is done on doubles; that of two integers is exact, except for division.
-/

namespace Treewalk

namespace Value

/-- An operation on numbers, with its sign for messages. -/
inductive Arithmetic where
  | add
  | sub
  | mul
  | div
  | mod
  | pow
  deriving DecidableEq, Repr

namespace Arithmetic

/-- The sign of an operation. -/
def sign : Arithmetic → String
  | .add => "+"
  | .sub => "-"
  | .mul => "*"
  | .div => "/"
  | .mod => "%"
  | .pow => "** or pow()"

/-- Two values that an operation does not take. -/
def mishap (w : World) (op : Arithmetic) (a b : Value) : Mishap :=
  .type ("unsupported operand type(s) for " ++ op.sign ++ ": '" ++ w.typeName a ++ "' and '" ++
    w.typeName b ++ "'")

end Arithmetic

/-- An integer too large for a double. -/
def tooLargeForFloat : Mishap := .overflow "int too large to convert to float"

/-- The double of a number. -/
def Number.toFloat : Number → Except Mishap Float
  | .float x => .ok x
  | .int n =>
    match Decimal.ofInt? n with
    | some x => .ok x
    | none => .error tooLargeForFloat

/-- The remainder of two doubles, with the sign of the second. -/
def floatMod (x y : Float) : Except Mishap Float :=
  if y == 0 then .error (.zeroDivision "float modulo")
  else
    match Decimal.shape x, Decimal.shape y with
    | .finite a, .finite b => .ok (Decimal.remainder a b)
    | .finite a, .infinite negative =>
      if a.mantissa = 0 then .ok (Decimal.zero negative)
      else if a.negative == negative then .ok x
      else .ok y
    | _, _ => .ok Decimal.notANumber

/-- Whether a double is a whole number. -/
def isWhole (x : Float) : Bool :=
  match Decimal.shape x with
  | .finite b => b.fraction.1 % b.fraction.2 = 0
  | _ => false

/-- Whether a double is an odd whole number. -/
def isOdd (x : Float) : Bool :=
  match Decimal.shape x with
  | .finite b =>
    let (n, d) := b.fraction
    n % d = 0 && (n / d) % 2 = 1
  | _ => false

/-- A power that is too large for a double. -/
def powerOverflow : Mishap := .overflow "(34, 'Numerical result out of range')"

/-- A power of doubles whose special cases are decided first. That of a negative number to a
fraction is a complex number; there are none of these here, and it is taken to be unimplemented. -/
def floatPow (x y : Float) : Except Mishap Float :=
  if y == 0 then .ok 1
  else if x.isNaN then .ok x
  else if y.isNaN then .ok (if x == 1 then 1 else y)
  else if y.isInf then
    let m := x.abs
    .ok (if m == 1 then 1 else if (y > 0) == (m > 1) then Decimal.infinity false else 0)
  else if x.isInf then
    if y > 0 then .ok (if isOdd y then x else x.abs)
    else .ok (if isOdd y then Decimal.zero (Decimal.isNegative x) else 0)
  else if x == 0 then
    if y < 0 then .error (.zeroDivision "0.0 cannot be raised to a negative power")
    else .ok (if isOdd y then x else 0)
  else
    let negate := x < 0 && isOdd y
    let r := Float.pow x.abs y
    if x < 0 && !isWhole y then
      .error (if r.isInf then .overflow "complex exponentiation" else .unimplemented)
    else if r.isInf then .error powerOverflow
    else .ok (if negate then -r else r)

/-- A quotient of integers, rounded once. -/
def intDiv (a b : Int) : Except Mishap Float :=
  if b = 0 then .error (.zeroDivision "division by zero")
  else
    let bits := Decimal.nearestBits a.natAbs b.natAbs
    if bits = 2047 * Nat.pow 2 52 then
      .error (.overflow "integer division result too large for a float")
    else .ok (Decimal.nearest ((a < 0) != (b < 0)) a.natAbs b.natAbs)

/-- A power of integers; those of zero and of units need no multiplication. -/
def intPow (a : Int) (n : Nat) : Int :=
  if n = 0 then 1
  else if a = 0 || a = 1 then a
  else if a = -1 then (if n % 2 = 0 then 1 else -1)
  else Int.pow a n

/-- An operation on two integers. -/
def intArithmetic (op : Arithmetic) (a b : Int) : Except Mishap Answer :=
  match op with
  | .add => .ok (.int (a + b))
  | .sub => .ok (.int (a - b))
  | .mul => .ok (.int (a * b))
  | .div => do return .float (← intDiv a b)
  | .mod =>
    if b = 0 then .error (.zeroDivision "integer modulo by zero") else .ok (.int (a.fmod b))
  | .pow =>
    if 0 ≤ b then .ok (.int (intPow a b.toNat))
    else do return .float (← floatPow (← (Number.int a).toFloat) (← (Number.int b).toFloat))

/-- An operation on two doubles. -/
def floatArithmetic (op : Arithmetic) (x y : Float) : Except Mishap Answer :=
  match op with
  | .add => .ok (.float (x + y))
  | .sub => .ok (.float (x - y))
  | .mul => .ok (.float (x * y))
  | .div =>
    if y == 0 then .error (.zeroDivision "float division by zero") else .ok (.float (x / y))
  | .mod => do return .float (← floatMod x y)
  | .pow => do return .float (← floatPow x y)

/-- An operation on two numbers. -/
def arithmetic (op : Arithmetic) : Number → Number → Except Mishap Answer
  | .int a, .int b => intArithmetic op a b
  | x, y => do floatArithmetic op (← x.toFloat) (← y.toFloat)

end Value

end Treewalk
