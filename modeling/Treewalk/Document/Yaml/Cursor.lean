import Treewalk.Document.Yaml.Problem

/-!
# Positions in a YAML text

A cursor is the rest of a text together with the line and the column it begins at. The reading
functions of the lexemes are computations over a cursor that may fail.
-/

namespace Treewalk.Yaml

/-- A position in a text of `length` characters, `index` of which lie behind. Lines and columns
count from zero. -/
structure Cursor where
  rest : List Char
  length : Nat
  index : Nat
  line : Nat
  column : Nat

/-- The start of a text. -/
def Cursor.ofText (s : List Char) : Cursor := ⟨s, s.length, 0, 0, 0⟩

/-- What stands for the end of a text where a character is asked for. -/
def endMark : Char := Char.ofNat 0

/-- The characters that end a line. -/
def isBreak (c : Char) : Bool :=
  c = '\n' || c = '\r' || c.toNat = 0x85 || c.toNat = 0x2028 || c.toNat = 0x2029

/-- Whether a character ends a line or the text. -/
def isBreakOrEnd (c : Char) : Bool := c = endMark || isBreak c

/-- Whether a character is a blank or ends a line or the text. -/
def isSpaceOrEnd (c : Char) : Bool := c = ' ' || isBreakOrEnd c

/-- Whether a character is a blank, a tab, or ends a line or the text. -/
def isGap (c : Char) : Bool := c = '\t' || isSpaceOrEnd c

/-- The byte order mark, which takes no column. -/
def byteOrderMark : Char := Char.ofNat 0xFEFF

namespace Cursor

/-- The number of characters ahead. -/
def remaining (c : Cursor) : Nat := c.length - c.index

/-- The character `k` places ahead. -/
def peek (c : Cursor) (k : Nat) : Char := c.rest.getD k endMark

/-- The character at the cursor. -/
def head (c : Cursor) : Char := c.rest.headD endMark

/-- Moves over one character. A carriage return before a newline ends no line of its own. -/
def next (c : Cursor) : Cursor :=
  match c.rest with
  | [] => c
  | x :: rest =>
    if isBreak x && !(x = '\r' && rest.head? == some '\n') then ⟨rest, c.length, c.index + 1, c.line + 1, 0⟩
    else if x = byteOrderMark then ⟨rest, c.length, c.index + 1, c.line, c.column⟩
    else ⟨rest, c.length, c.index + 1, c.line, c.column + 1⟩

/-- Moves over several characters. -/
def forward (c : Cursor) : Nat → Cursor
  | 0 => c
  | n + 1 => c.next.forward n

/-- Moves over the characters in front that satisfy a predicate. -/
def skip (p : Char → Bool) (c : Cursor) : Cursor := c.forward (c.rest.takeWhile p).length

/-- Whether a line that separates documents starts here: three dashes or points, then a gap. -/
def isSeparator (c : Cursor) : Bool :=
  (c.rest.take 3 == ['-', '-', '-'] || c.rest.take 3 == ['.', '.', '.']) && isGap (c.peek 3)

end Cursor

/-- A reading of a part of a text. -/
abbrev Scan := StateT Cursor (Except Refusal)

namespace Scan

/-- The character at the cursor. -/
def head : Scan Char := do return (← get).head

/-- The character `k` places ahead. -/
def peek (k : Nat) : Scan Char := do return (← get).peek k

/-- Moves over several characters. -/
def forward (n : Nat) : Scan Unit := modify (·.forward n)

/-- Moves over the characters in front that satisfy a predicate. -/
def skip (p : Char → Bool) : Scan Unit := modify (·.skip p)

/-- Takes the characters in front that satisfy a predicate. -/
def take (p : Char → Bool) : Scan (List Char) := do
  let c ← get
  let s := c.rest.takeWhile p
  set (c.forward s.length)
  return s

/-- Complains about the line of the cursor. -/
def fail {α : Type} (p : Problem) : Scan α := do throw (.problem p ((← get).line + 1))

/-- Takes a line break, if there is one. All but the two separators of Unicode become newlines. -/
def lineBreak : Scan (Option Char) := do
  let c ← get
  let x := c.head
  if x = '\r' && c.peek 1 = '\n' then
    set (c.forward 2)
    return some '\n'
  else if x = '\n' || x = '\r' || x.toNat = 0x85 then
    set c.next
    return some '\n'
  else if isBreak x then
    set c.next
    return some x
  else return none

/-- Moves over a comment, if there is one, up to the end of its line. -/
def comment : Scan Unit := do
  if (← head) = '#' then skip fun c => !isBreak c

/-- Moves over blanks and a comment to the end of a line, and over its break. -/
def restOfLine : Scan Unit := do
  skip (· = ' ')
  comment
  let c ← head
  if isBreakOrEnd c then
    let _ ← lineBreak
  else fail (.wantedLineEnd c)

end Scan

end Treewalk.Yaml
