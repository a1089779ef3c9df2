import Treewalk.Text.Fragment

/-!
# UTF-8

Text as octets and back. Reading takes one character off the front at a time
(`Treewalk.Text.Utf8.step`); where no character can be read, it says why and how many octets
belong to the broken piece. `Treewalk.Text.Utf8.decode?` stops at the first broken piece and reports
it, `Treewalk.Text.Utf8.decodeReplacing` puts a replacement character in its place and goes on.
-/

namespace Treewalk.Text.Utf8

/-- Why a piece of octets is no character. -/
inductive Reason where
  | start
  | continuation
  | ending
  deriving DecidableEq

/-- The octets of one character. -/
def encodeChar (c : Char) : List UInt8 :=
  let n := c.toNat
  if n < 0x80 then [n.toUInt8]
  else if n < 0x800 then [(0xC0 + n / 64).toUInt8, (0x80 + n % 64).toUInt8]
  else if n < 0x10000 then
    [(0xE0 + n / 4096).toUInt8, (0x80 + n / 64 % 64).toUInt8, (0x80 + n % 64).toUInt8]
  else
    [(0xF0 + n / 262144).toUInt8, (0x80 + n / 4096 % 64).toUInt8, (0x80 + n / 64 % 64).toUInt8,
     (0x80 + n % 64).toUInt8]

/-- The octets of a text. -/
def encode (s : List Char) : List UInt8 := s.flatMap encodeChar

/-- Whether an octet continues a character. -/
def isTail (b : UInt8) : Bool := 0x80 ≤ b.toNat && b.toNat < 0xC0

/-- Whether `b` may be the second octet behind the first octet `a` of a longer character. -/
def isSecond (a b : UInt8) : Bool :=
  isTail b &&
  (a.toNat != 0xE0 || 0xA0 ≤ b.toNat) && (a.toNat != 0xED || b.toNat < 0xA0) &&
  (a.toNat != 0xF0 || 0x90 ≤ b.toNat) && (a.toNat != 0xF4 || b.toNat < 0x90)

/-- What stands at the front of some octets. -/
inductive Piece where
  | char (c : Char)
  | broken (reason : Reason)

/-- The value that an octet behind the first adds. -/
def tailBits (b : UInt8) : Nat := b.toNat % 64

/-- The piece at the front of `a :: rest` and the number of octets of `rest` that belong to it. -/
def step (a : UInt8) (rest : List UInt8) : Piece × Nat :=
  let n := a.toNat
  if n < 0x80 then (.char (Char.ofNat n), 0)
  else if n < 0xC2 || 0xF5 ≤ n then (.broken .start, 0)
  else match rest with
    | [] => (.broken .ending, 0)
    | b :: rest =>
      if !isSecond a b then (.broken .continuation, 0)
      else if n < 0xE0 then (.char (Char.ofNat ((n - 0xC0) * 64 + tailBits b)), 1)
      else match rest with
        | [] => (.broken .ending, 1)
        | c :: rest =>
          if !isTail c then (.broken .continuation, 1)
          else if n < 0xF0 then
            (.char (Char.ofNat ((n - 0xE0) * 4096 + tailBits b * 64 + tailBits c)), 2)
          else match rest with
            | [] => (.broken .ending, 2)
            | d :: _ =>
              if !isTail d then (.broken .continuation, 2)
              else (.char (Char.ofNat
                ((n - 0xF0) * 262144 + tailBits b * 4096 + tailBits c * 64 + tailBits d)), 3)

/-- What is wrong with a broken piece. -/
def Reason.text : Reason → String
  | .start => "invalid start byte"
  | .continuation => "invalid continuation byte"
  | .ending => "unexpected end of data"

/-- Cuts octets into characters and broken pieces. -/
def fragments : List UInt8 → List Fragment
  | [] => []
  | a :: rest =>
    let (piece, n) := step a rest
    let content := match piece with
      | .char c => .ok [c]
      | .broken reason => .error reason.text
    ⟨a :: rest.take n, content⟩ :: fragments (rest.drop n)
termination_by bs => bs.length
decreasing_by simp only [List.length_drop, List.length_cons]; omega

/-- Reads octets, putting a replacement character for every broken piece. -/
def decodeReplacing (bs : List UInt8) : List Char :=
  Fragment.mended (fun _ => [replacement]) (fragments bs)

/-- The name of the encoding. -/
def title : String := "utf-8"

/-- Reads octets that must all be characters. -/
def decode? (bs : List UInt8) : Except Break (List Char) := Fragment.read title 0 (fragments bs)

end Treewalk.Text.Utf8
