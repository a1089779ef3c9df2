/-!
# Byte strings as texts

A byte string can be handled as a text in which every octet is the character with its number. Only
the letters of ASCII have case there, and only its blanks separate words; everything above it is a
sign like any other.
-/

namespace Treewalk.Text.Octets

/-- The character with the number of an octet. -/
def toChar (b : UInt8) : Char := Char.ofNat b.toNat

/-- The octet with the number of a character. -/
def ofChar (c : Char) : UInt8 := c.toNat.toUInt8

/-- The text of a byte string. -/
def toText (bs : List UInt8) : List Char := bs.map toChar

/-- The byte string of a text. -/
def ofText (s : List Char) : List UInt8 := s.map ofChar

/-- The blanks that separate words. -/
def isBlank (c : Char) : Bool := c = ' ' || (0x09 ≤ c.toNat && c.toNat ≤ 0x0D)

/-- The characters that end a line. -/
def isLineBoundary (c : Char) : Bool := c = '\n' || c = '\r'

/-- The first character a capital, all others small. -/
def capitalize : List Char → List Char
  | [] => []
  | c :: rest => c.toUpper :: rest.map Char.toLower

/-- Every word with a capital in front; `inWord` says that the last character was a letter. -/
def toTitle : (inWord : Bool) → List Char → List Char
  | _, [] => []
  | inWord, c :: rest => (if inWord then c.toLower else c.toUpper) :: toTitle c.isAlpha rest

/-- A capital made small, and a small letter made a capital. -/
def swapCase (c : Char) : Char := if c.isUpper then c.toLower else c.toUpper

/-- Whether there is a capital and no small letter. -/
def isAllUpper (s : List Char) : Bool := s.any Char.isUpper && !s.any Char.isLower

/-- Whether there is a small letter and no capital. -/
def isAllLower (s : List Char) : Bool := s.any Char.isLower && !s.any Char.isUpper

/-- Whether every word begins with a capital and goes on in small letters, and there is one. -/
def isTitled : (inWord found : Bool) → List Char → Bool
  | _, found, [] => found
  | inWord, found, c :: rest =>
    if c.isUpper then !inWord && isTitled true true rest
    else if c.isLower then inWord && isTitled true true rest
    else isTitled false found rest

end Treewalk.Text.Octets
