import Treewalk.Text.Table.Case
import Treewalk.Text.Table.Digit
import Treewalk.Text.Table.Letter
import Treewalk.Text.Table.Printable

/-!
# Classes of characters and their case

Which characters separate words, end lines, count as letters or digits, and how a character is
written in capitals. The classes are given as ranges of code points.

* `Treewalk.Text.isBlank`, `Treewalk.Text.isLineBoundary` – what divides words and lines;
* `Treewalk.Text.isPrintable` – what a quoted text shows as it is;
* `Treewalk.Text.upper`, `Treewalk.Text.lower`, `Treewalk.Text.fold`, `Treewalk.Text.titled` – the
  case of one character, as the list of characters that replaces it.
-/

namespace Treewalk.Text

/-- Whether a code point lies in one of the given closed ranges, which are in rising order. -/
def inRanges (n : Nat) : List (Nat × Nat) → Bool
  | [] => false
  | (first, last) :: rest => first ≤ n && (n ≤ last || inRanges n rest)

/-! ### Separators -/

/-- The blanks that separate words and that stripping removes. -/
def isBlank (c : Char) : Bool :=
  inRanges c.toNat [(0x09, 0x0D), (0x1C, 0x20), (0x85, 0x85), (0xA0, 0xA0), (0x1680, 0x1680),
    (0x2000, 0x200A), (0x2028, 0x2029), (0x202F, 0x202F), (0x205F, 0x205F), (0x3000, 0x3000)]

/-- The characters that end a line of text. -/
def isLineBoundary (c : Char) : Bool :=
  inRanges c.toNat [(0x0A, 0x0D), (0x1C, 0x1E), (0x85, 0x85), (0x2028, 0x2029)]

/-- The characters that a quoted text shows as they are; all others are escaped. -/
def isPrintable (c : Char) : Bool := inRanges c.toNat Table.printable

/-! ### Digits -/

/-- The value of a decimal digit of any script. -/
def decimal? (c : Char) : Option Nat :=
  (Table.zeros.find? fun z => z ≤ c.toNat && c.toNat ≤ z + 9).map (c.toNat - ·)

def isDecimal (c : Char) : Bool := (decimal? c).isSome

/-- Decimal digits, and the raised, lowered and circled ones. -/
def isDigit (c : Char) : Bool := isDecimal c || inRanges c.toNat Table.otherDigits

/-- Digits, and the characters that stand for other numbers. -/
def isNumeric (c : Char) : Bool := isDigit c || inRanges c.toNat Table.otherNumerals

/-! ### Letters -/

/-- The image of a code point under the runs of a table, which are in rising order. -/
def image? (n : Nat) : List Table.Run → Option Nat
  | [] => none
  | r :: rest =>
    if n < r.first then none
    else if n ≤ r.last && (n - r.first) % r.step = 0 then some (n + r.shift).toNat
    else image? n rest

/-- The character that replaces another by a table of runs, and the characters that replace it by a
table of sequences. -/
def replaced? (runs : List Table.Run) (sequences : List (Nat × List Nat)) (c : Char) :
    Option (List Char) :=
  match image? c.toNat runs with
  | some n => some [Char.ofNat n]
  | none => (sequences.lookup c.toNat).map (·.map Char.ofNat)

/-- Letters that stand for a capital followed by a small letter. -/
def isTitle (c : Char) : Bool := inRanges c.toNat Table.titleLetters

/-- Capital letters. -/
def isUpper (c : Char) : Bool :=
  ((replaced? Table.smallRuns Table.smallSequences c).isSome && !isTitle c) ||
    inRanges c.toNat Table.otherCapitals

/-- Small letters. -/
def isLower (c : Char) : Bool :=
  ((replaced? Table.capitalRuns Table.capitalSequences c).isSome && !isTitle c) ||
    inRanges c.toNat Table.otherSmalls

/-- Letters that have case. -/
def isCased (c : Char) : Bool := isUpper c || isLower c || isTitle c

/-- Marks inside a word that are passed over to tell whether it ends. -/
def isCaseless (c : Char) : Bool := inRanges c.toNat Table.caseless

/-- Letters of any script. -/
def isAlpha (c : Char) : Bool := inRanges c.toNat Table.letters

def isAlnum (c : Char) : Bool := isAlpha c || isNumeric c

/-- What an identifier may begin with. -/
def isIdentifierStart (c : Char) : Bool :=
  c == '_' || (isAlpha c && !inRanges c.toNat Table.notStarts) ||
    inRanges c.toNat Table.otherStarts

/-- What an identifier may go on with. -/
def isIdentifierPart (c : Char) : Bool :=
  isIdentifierStart c || isDecimal c || inRanges c.toNat Table.otherParts

/-! ### Case -/

/-- A character in capitals. Some become several letters, such as the sharp s. -/
def upper (c : Char) : List Char :=
  (replaced? Table.capitalRuns Table.capitalSequences c).getD [c]

/-- A character in small letters. -/
def lower (c : Char) : List Char := (replaced? Table.smallRuns Table.smallSequences c).getD [c]

/-- A character as it stands at the start of a titled word. -/
def titled (c : Char) : List Char :=
  (replaced? Table.titleRuns Table.titleSequences c).getD (upper c)

/-- A character with its case removed, for comparison without regard to case. -/
def fold (c : Char) : List Char := (replaced? Table.foldRuns Table.foldSequences c).getD (lower c)

/-- Whether the first character that is not passed over has case. -/
def meetsCase (s : List Char) : Bool := (s.find? fun c => !isCaseless c).any isCased

/-- A character in small letters, between the characters before it, the last one first, and those
behind it. A capital sigma that ends a word takes its final form. -/
def lowerBetween (before : List Char) (c : Char) (after : List Char) : List Char :=
  if c.toNat == 0x3A3 && meetsCase before && !meetsCase after then [Char.ofNat 0x3C2] else lower c

/-- The small letters of a text behind other characters, of which the last one comes first. -/
def lowerAll : (before : List Char) → List Char → List Char
  | _, [] => []
  | before, c :: rest => lowerBetween before c rest ++ lowerAll (c :: before) rest

/-- The text in small letters. -/
def toLower (s : List Char) : List Char := lowerAll [] s

/-- The text in capitals. -/
def toUpper (s : List Char) : List Char := s.flatMap upper

/-- The text with its first character titled and the others small. -/
def capitalize : List Char → List Char
  | [] => []
  | c :: rest => titled c ++ lowerAll [c] rest

/-- The text with every word titled; `inWord` says that the last character had case. -/
def toTitle : (inWord : Bool) → (before : List Char) → List Char → List Char
  | _, _, [] => []
  | inWord, before, c :: rest =>
    (if inWord then lowerBetween before c rest else titled c) ++
      toTitle (isCased c) (c :: before) rest

/-- Capitals made small and small letters made capitals. -/
def swapCase : (before : List Char) → List Char → List Char
  | _, [] => []
  | before, c :: rest =>
    (if isUpper c then lowerBetween before c rest else if isLower c then upper c else [c]) ++
      swapCase (c :: before) rest

/-- Whether there is a capital, and no letter with case is anything else. -/
def isAllUpper (s : List Char) : Bool := s.any isUpper && !s.any fun c => isLower c || isTitle c

/-- Whether there is a small letter, and no letter with case is anything else. -/
def isAllLower (s : List Char) : Bool := s.any isLower && !s.any fun c => isUpper c || isTitle c

/-- Whether every word begins with a capital and goes on in small letters, and there is one. -/
def isTitled : (inWord found : Bool) → List Char → Bool
  | _, found, [] => found
  | inWord, found, c :: rest =>
    if isUpper c || isTitle c then !inWord && isTitled true true rest
    else if isLower c then inWord && isTitled true true rest
    else isTitled false found rest

/-- Whether the text is a name: a letter or underscore, then letters, digits and underscores. -/
def isIdentifier : List Char → Bool
  | [] => false
  | c :: rest => isIdentifierStart c && rest.all isIdentifierPart

end Treewalk.Text
