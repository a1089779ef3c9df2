import Treewalk.Text.Fragment

/-!
# UTF-16 and UTF-32

Texts as units of two octets, of which a character takes one or two, and as units of four octets,
one a character. The octets of a unit stand in either order; a mark at the start of the octets may
tell in which.
-/

namespace Treewalk.Text

/-- The order of the octets of a unit: the lowest first, or the highest. -/
inductive OctetOrder where
  | little
  | big
  deriving DecidableEq, Repr

namespace OctetOrder

/-- The ending of the name of an encoding in this order. -/
def suffix : OctetOrder → String
  | .little => "-le"
  | .big => "-be"

/-- The octets of a unit of `size` octets. -/
def octets (o : OctetOrder) (size n : Nat) : List UInt8 :=
  let low := (List.range size).map fun i => (n / Nat.pow 256 i % 256).toUInt8
  match o with
  | .little => low
  | .big => low.reverse

/-- The unit of some octets. -/
def unit (o : OctetOrder) (bs : List UInt8) : Nat :=
  let high := match o with
    | .little => bs.reverse
    | .big => bs
  high.foldl (fun n b => n * 256 + b.toNat) 0

end OctetOrder

/-- The mark that tells the order of octets. -/
def orderMark : Nat := 0xFEFF

/-- The order that a mark of `size` octets at the start tells, if there is one. -/
def markedOrder? (size : Nat) (bs : List UInt8) : Option OctetOrder :=
  [OctetOrder.little, .big].find? fun o => bs.take size == o.octets size orderMark

/-- Whether a unit is the first half of a pair that stands for one character. -/
def isHighSurrogate (n : Nat) : Bool := 0xD800 ≤ n && n < 0xDC00

/-- Whether a unit is the second half of a pair. -/
def isLowSurrogate (n : Nat) : Bool := 0xDC00 ≤ n && n < 0xE000

namespace Utf16

/-- The octets of one character. -/
def encodeChar (o : OctetOrder) (c : Char) : List UInt8 :=
  let n := c.toNat
  if n < 0x10000 then o.octets 2 n
  else o.octets 2 (0xD800 + (n - 0x10000) / 0x400) ++ o.octets 2 (0xDC00 + (n - 0x10000) % 0x400)

/-- The character of a pair of halves. -/
def charOfPair (high low : Nat) : Char :=
  Char.ofNat (0x10000 + (high - 0xD800) * 0x400 + (low - 0xDC00))

/-- Cuts octets into characters and broken pieces. -/
def fragments (o : OctetOrder) : List UInt8 → List Fragment
  | [] => []
  | [a] => [⟨[a], .error "truncated data"⟩]
  | a :: b :: rest =>
    let n := o.unit [a, b]
    if isLowSurrogate n then ⟨[a, b], .error "illegal encoding"⟩ :: fragments o rest
    else if isHighSurrogate n then
      match rest with
      | c :: d :: after =>
        if isLowSurrogate (o.unit [c, d]) then
          ⟨[a, b, c, d], .ok [charOfPair n (o.unit [c, d])]⟩ :: fragments o after
        else ⟨[a, b], .error "illegal UTF-16 surrogate"⟩ :: fragments o (c :: d :: after)
      | rest => [⟨a :: b :: rest, .error "unexpected end of data"⟩]
    else ⟨[a, b], .ok [Char.ofNat n]⟩ :: fragments o rest
termination_by bs => bs.length
decreasing_by all_goals simp only [List.length_cons]; omega

end Utf16

namespace Utf32

/-- The octets of one character. -/
def encodeChar (o : OctetOrder) (c : Char) : List UInt8 := o.octets 4 c.toNat

/-- Cuts octets into characters and broken pieces. -/
def fragments (o : OctetOrder) : List UInt8 → List Fragment
  | [] => []
  | a :: b :: c :: d :: rest =>
    let n := o.unit [a, b, c, d]
    let content := if isHighSurrogate n || isLowSurrogate n then
        .error "code point in surrogate code point range(0xd800, 0xe000)"
      else if 0x110000 ≤ n then .error "code point not in range(0x110000)"
      else .ok [Char.ofNat n]
    ⟨[a, b, c, d], content⟩ :: fragments o rest
  | bs => [⟨bs, .error "truncated data"⟩]

end Utf32

end Treewalk.Text
