import Treewalk.Decimal.Hex
import Treewalk.Method.Text

/-!
# What numbers can do

The capabilities of integers and doubles, by name. A truth value answers as the integer that it
is.
-/

namespace Treewalk

/-! ### Integers -/

namespace IntMethod

/-- The number of ones among the binary digits. -/
def ones (n : Nat) : Nat := (Nat.toDigits 2 n).countP (· == '1')

/-- The number of binary digits; zero has none. -/
def digits (n : Nat) : Nat := if n = 0 then 0 else n.log2 + 1

/-- The lowest `length` digits of a number to the base 256, the lowest one first. -/
def octets : (length n : Nat) → List UInt8
  | 0, _ => []
  | length + 1, n => (n % 256).toUInt8 :: octets length (n / 256)

/-- An order in which octets are written or read by the method with a name: whether the highest one
comes first. -/
def byteOrder (w : World) (method : String) : Option Value → Except Mishap Bool
  | none => .ok true
  | some (.str "big" _) => .ok true
  | some (.str "little" _) => .ok false
  | some (.str _ _) => .error (.value "byteorder must be either 'little' or 'big'")
  | some v =>
    .error (.type (method ++ "() argument 'byteorder' must be str, not " ++ w.found v))

/-- A number as octets of some length, the highest one first or last. -/
def sizedOctets (n length : Int) (big : Bool) : Except Mishap (List UInt8) :=
  if length < 0 then .error (.value "length argument must be non-negative")
  else if n < 0 then .error (.overflow "can't convert negative int to unsigned")
  else if length.toNat * 8 < digits n.toNat then .error (.overflow "int too big to convert")
  else
    let bs := octets length.toNat n.toNat
    .ok (if big then bs.reverse else bs)

/-- The length that is asked for, one if none is. -/
def lengthOf (w : World) : Option Value → Except Mishap Int
  | some v => w.size v
  | none => .ok 1

/-- A number as octets. -/
def toOctets (n : Int) (w : World) (args : List Value) : Except Mishap Answer := do
  let length ← lengthOf w args[0]?
  let big ← byteOrder w "to_bytes" args[1]?
  return .known (.bytes (← sizedOctets n length big))

/-- The number that octets stand for, the highest one first. -/
def ofOctets (bs : List UInt8) : Nat := bs.foldl (fun n b => 256 * n + b.toNat) 0

/-- An item of a value that octets are made of. -/
def octetOf (w : World) (v : Value) : Except Mishap UInt8 := do
  let n ← w.integer v
  if n < 0 || 256 ≤ n then throw (.value "bytes must be in range(0, 256)")
  return n.toNat.toUInt8

/-- The octets that a value is or holds. -/
def octetsIn (w : World) (v : Value) : Except Mishap (List UInt8) :=
  let refusal : Mishap := .type ("cannot convert '" ++ w.typeName v ++ "' object to bytes")
  match v, w.items? v with
  | .bytes bs, _ => .ok bs
  | .str _ _, _ => .error refusal
  | _, some items => items.mapM (octetOf w)
  | _, none => .error refusal

/-- The number that the octets of an argument stand for. A truth value makes a truth value of it. -/
def fromOctets (receiver : Value) (w : World) (args : List Value) : Except Mishap Answer := do
  let big ← byteOrder w "from_bytes" args[1]?
  let bs ← octetsIn w (args.headD .nil)
  let n := ofOctets (if big then bs else bs.reverse)
  return match receiver with
    | .bool _ => .bool (n != 0)
    | _ => .int n

end IntMethod

/-- The capability of an integer with a name. -/
def intMethod? (receiver : Value) (n : Int) : String → Option Capability
  | "as_integer_ratio" => some (.reading (takes 0) fun _ _ => .ok (.tuple [.int n, .int 1]))
  | "bit_count" => some (.reading (takes 0) fun _ _ => .ok (.int (IntMethod.ones n.natAbs)))
  | "bit_length" => some (.reading (takes 0) fun _ _ => .ok (.int (IntMethod.digits n.natAbs)))
  | "to_bytes" => some (.reading (takesUpTo 0 2) (IntMethod.toOctets n))
  | "conjugate" => some (.reading none fun w args => do
      refuseArguments w receiver "conjugate" args
      return .int n)
  | "from_bytes" => some (.reading (takesUpTo 1 1) (IntMethod.fromOctets receiver))
  | _ => none

/-! ### Doubles -/

/-- A double as a fraction in lowest terms. -/
def floatRatio (x : Float) : Except Mishap Answer :=
  match Decimal.shape x with
  | .finite b => .ok (.tuple [.int b.ratio.1, .int b.ratio.2])
  | .infinite _ => .error (.overflow "cannot convert Infinity to integer ratio")
  | .nan => .error (.value "cannot convert NaN to integer ratio")

/-- The double that hexadecimal digits stand for. -/
def floatOfHex : Value → Except Mishap Answer
  | .str s _ =>
    match Decimal.readHex s.toList with
    | .ok x => .ok (.float x)
    | .error .invalid => .error (.value "invalid hexadecimal floating-point string")
    | .error .tooLarge =>
      .error (.overflow "hexadecimal value too large to represent as a float")
  | _ => .error (.type "bad argument type for built-in operation")

/-- The capability of a double with a name. -/
def floatMethod? (receiver : Value) (x : Float) : String → Option Capability
  | "as_integer_ratio" => some (.reading (takes 0) fun _ _ => floatRatio x)
  | "conjugate" => some (.reading (takes 0) fun _ _ => .ok (.known receiver))
  | "hex" => some (.reading (takes 0) fun _ _ => .ok (.text (Decimal.hexText x)))
  | "is_integer" => some (.reading (takes 0) fun _ _ => .ok (.bool (Value.isWhole x)))
  | "fromhex" => some (.reading (takes 1) fun _ args => floatOfHex (args.headD .nil))
  | _ => none

end Treewalk
