import Treewalk.Decimal.Reader
import Treewalk.Text.Fragment

/-!
# Octets with escapes

A text as octets in which a backslash starts an escape and every other octet is the character with
its number. In the *full* style all that is not printable ASCII is escaped, and there are escapes
for single letters, octal and hexadecimal numbers; in the *raw* style only characters beyond 255
are, and only `\u` and `\U` start an escape.
-/

namespace Treewalk.Text.Escape

/-- The two styles of escapes. -/
inductive Style where
  | full
  | raw
  deriving DecidableEq, Repr

/-- The name of a style where octets are refused. -/
def Style.title : Style → String
  | .full => "unicodeescape"
  | .raw => "rawunicodeescape"

/-- A character as octets. -/
def Style.escape (style : Style) (c : Char) : List Char :=
  let long : List Char := if c.toNat < 0x10000 then '\\' :: 'u' :: hexPadded 4 c.toNat
    else '\\' :: 'U' :: hexPadded 8 c.toNat
  match style with
  | .raw => if c.toNat < 256 then [c] else long
  | .full =>
    match c with
    | '\\' => ['\\', '\\']
    | '\t' => ['\\', 't']
    | '\n' => ['\\', 'n']
    | '\r' => ['\\', 'r']
    | c =>
      if 0x20 ≤ c.toNat && c.toNat < 0x7F then [c]
      else if c.toNat < 256 then '\\' :: 'x' :: hexPadded 2 c.toNat
      else long

/-- What an escape stands for, and how many octets behind its letter belong to it. -/
structure Meaning where
  content : Except String (List Char)
  size : Nat

/-- The escapes of single letters. A line feed behind a backslash stands for nothing. -/
def simple? : Char → Option (List Char)
  | '\n' => some []
  | '\\' => some ['\\']
  | '\'' => some ['\'']
  | '"' => some ['"']
  | 'b' => some ['\x08']
  | 'f' => some ['\x0c']
  | 't' => some ['\t']
  | 'n' => some ['\n']
  | 'r' => some ['\r']
  | 'v' => some ['\x0b']
  | 'a' => some ['\x07']
  | _ => none

/-- A character given by hexadecimal digits. -/
def hexadecimal (count : Nat) (truncated beyond : String) (rest : List Char) : Meaning :=
  let digits := (rest.take count).takeWhile fun c => (Decimal.digitIn? 16 c).isSome
  let n := (Decimal.natIn? 16 0 digits).getD 0
  ⟨if digits.length < count then .error truncated
    else if n < 0x110000 then .ok [Char.ofNat n]
    else .error beyond, digits.length⟩

/-- A character given by up to three octal digits, of which the first is the letter of the
escape. -/
def octal (first : Char) (rest : List Char) : Meaning :=
  let digits := (rest.take 2).takeWhile fun c => (Decimal.digitIn? 8 c).isSome
  ⟨.ok [Char.ofNat ((Decimal.natIn? 8 0 (first :: digits)).getD 0)], digits.length⟩

/-- A character given by a name between braces. No names are known. -/
def named (rest : List Char) : Meaning :=
  let malformed := "malformed \\N character escape"
  match rest with
  | '\x7b' :: rest =>
    let name := rest.takeWhile (· != '\x7d')
    if name.length = rest.length then ⟨.error malformed, rest.length + 1⟩
    else if name.isEmpty then ⟨.error malformed, 1⟩
    else ⟨.error "unknown Unicode character name", name.length + 2⟩
  | _ => ⟨.error malformed, 0⟩

/-- What an escape stands for, given its letter and what follows. -/
def Style.meaning (style : Style) (letter : Char) (rest : List Char) : Meaning :=
  match style, letter with
  | .raw, 'u' => hexadecimal 4 "truncated \\uXXXX escape" "" rest
  | .raw, 'U' => hexadecimal 8 "truncated \\UXXXXXXXX escape" "\\Uxxxxxxxx out of range" rest
  | .raw, c => ⟨.ok ['\\', c], 0⟩
  | .full, 'x' => hexadecimal 2 "truncated \\xXX escape" "" rest
  | .full, 'u' => hexadecimal 4 "truncated \\uXXXX escape" "" rest
  | .full, 'U' => hexadecimal 8 "truncated \\UXXXXXXXX escape" "illegal Unicode character" rest
  | .full, 'N' => named rest
  | .full, c =>
    match simple? c with
    | some s => ⟨.ok s, 0⟩
    | none => if (Decimal.digitIn? 8 c).isSome then octal c rest else ⟨.ok ['\\', c], 0⟩

/-- Cuts octets into characters and escapes. -/
def Style.fragments (style : Style) : List UInt8 → List Fragment
  | [] => []
  | [b] =>
    if b.toNat = 0x5C && style = .full then [⟨[b], .error "\\ at end of string"⟩]
    else [⟨[b], .ok [Char.ofNat b.toNat]⟩]
  | b :: letter :: rest =>
    if b.toNat = 0x5C then
      let m := style.meaning (Char.ofNat letter.toNat) (rest.map fun b => Char.ofNat b.toNat)
      ⟨b :: letter :: rest.take m.size, m.content⟩ :: style.fragments (rest.drop m.size)
    else ⟨[b], .ok [Char.ofNat b.toNat]⟩ :: style.fragments (letter :: rest)
termination_by bs => bs.length
decreasing_by all_goals simp only [List.length_drop, List.length_cons]; omega

end Treewalk.Text.Escape
