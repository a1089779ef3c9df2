import Treewalk.Text.Chars

/-!
# Searching, cutting and padding texts

Texts are lists of characters. Searching goes from the left (`Treewalk.Text.findFirst`) or from
the right (`Treewalk.Text.findLast`); cutting at a separator is `Treewalk.Text.splitOn`, on which
counting and replacing rest, and cutting at blanks is `Treewalk.Text.splitBlank`. A cut from the
right is a cut of the reversed text.
-/

namespace Treewalk.Text

/-- The first position at which `pat` occurs. -/
def findFirst (pat : List Char) : List Char → Option Nat
  | [] => if pat.isEmpty then some 0 else none
  | c :: s => if pat.isPrefixOf (c :: s) then some 0 else (findFirst pat s).map (· + 1)

/-- The last position at which `pat` occurs. -/
def findLast (pat : List Char) : List Char → Option Nat
  | [] => if pat.isEmpty then some 0 else none
  | c :: s =>
    match findLast pat s with
    | some i => some (i + 1)
    | none => if pat.isPrefixOf (c :: s) then some 0 else none

/-- Cuts a text at a separator, at most `limit` times. `skip` characters of a separator are still
to be passed over, and `piece` is the current piece, last character first. -/
def splitFrom (sep : List Char) : (limit skip : Nat) → (piece : List Char) → List Char →
    List (List Char)
  | _, _, piece, [] => [piece.reverse]
  | limit, skip + 1, piece, _ :: s => splitFrom sep limit skip piece s
  | limit, 0, piece, c :: s =>
    if 0 < limit && sep.isPrefixOf (c :: s) then
      piece.reverse :: splitFrom sep (limit - 1) (sep.length - 1) [] s
    else splitFrom sep limit 0 (c :: piece) s

/-- A limit on the number of cuts: negative means none. -/
def cutLimit (limit : Int) (s : List Char) : Nat :=
  if limit < 0 then s.length + 1 else limit.toNat

/-- Cuts a text at a nonempty separator, from the left, at most `limit` times. -/
def splitOn (sep : List Char) (limit : Int) (s : List Char) : List (List Char) :=
  splitFrom sep (cutLimit limit s) 0 [] s

/-- Cuts a text at a nonempty separator, from the right, at most `limit` times. -/
def splitOnRight (sep : List Char) (limit : Int) (s : List Char) : List (List Char) :=
  ((splitOn sep.reverse limit s.reverse).map List.reverse).reverse

/-- The words of a text, at most `limit` of them cut off; the rest follows as one piece. Words stand
between characters that satisfy `blank`. -/
def splitBlankFrom (blank : Char → Bool) : (fuel limit : Nat) → List Char → List (List Char)
  | 0, _, _ => []
  | fuel + 1, limit, s =>
    match s.dropWhile blank with
    | [] => []
    | c :: s =>
      if limit = 0 then [c :: s]
      else (c :: s).takeWhile (fun c => !blank c) ::
        splitBlankFrom blank fuel (limit - 1) ((c :: s).dropWhile fun c => !blank c)

/-- The words of a text, from the left. -/
def splitBlank (blank : Char → Bool) (limit : Int) (s : List Char) : List (List Char) :=
  splitBlankFrom blank (s.length + 1) (cutLimit limit s) s

/-- The words of a text, cut off from the right. -/
def splitBlankRight (blank : Char → Bool) (limit : Int) (s : List Char) : List (List Char) :=
  ((splitBlank blank limit s.reverse).map List.reverse).reverse

/-- Pieces put together with a separator between them. -/
def joinWith (sep : List Char) : List (List Char) → List Char
  | [] => []
  | [p] => p
  | p :: q :: rest => p ++ sep ++ joinWith sep (q :: rest)

/-- How often a text occurs, overlaps not counted. The empty text occurs around every character. -/
def countOf (pat s : List Char) : Nat :=
  if pat.isEmpty then s.length + 1 else (splitOn pat (-1) s).length - 1

/-- A filling put in front of the first `limit` characters and, if it still may, at the end. -/
def interleave (filling : List Char) : (limit : Nat) → List Char → List Char
  | 0, s => s
  | _ + 1, [] => filling
  | limit + 1, c :: s => filling ++ c :: interleave filling limit s

/-- Replaces the first `limit` occurrences of `old`. -/
def replace (old new : List Char) (limit : Int) (s : List Char) : List Char :=
  if old.isEmpty then interleave new (cutLimit limit s) s
  else joinWith new (splitOn old limit s)

/-- Removes what satisfies `p` from the left end. -/
def stripLeft (p : Char → Bool) (s : List Char) : List Char := s.dropWhile p

/-- Removes what satisfies `p` from the right end. -/
def stripRight (p : Char → Bool) (s : List Char) : List Char := (s.reverse.dropWhile p).reverse

/-- A text centred in a field; of an odd rest the larger half goes left if the width is odd. -/
def center (width : Nat) (fill : Char) (s : List Char) : List Char :=
  let pad := width - s.length
  let left := pad / 2 + (if pad % 2 == 1 && width % 2 == 1 then 1 else 0)
  List.replicate left fill ++ s ++ List.replicate (pad - left) fill

/-- A text at the left of a field. -/
def padRight (width : Nat) (fill : Char) (s : List Char) : List Char :=
  s ++ List.replicate (width - s.length) fill

/-- A text at the right of a field. -/
def padLeft (width : Nat) (fill : Char) (s : List Char) : List Char :=
  List.replicate (width - s.length) fill ++ s

/-- Zeros in front, behind a sign. -/
def zeroFill (width : Nat) (s : List Char) : List Char :=
  let zeros := List.replicate (width - s.length) '0'
  match s with
  | '+' :: rest => '+' :: zeros ++ rest
  | '-' :: rest => '-' :: zeros ++ rest
  | s => zeros ++ s

/-- Tabs replaced by blanks up to the next stop; `column` counts from the last line end. -/
def expandTabs (size column : Nat) : List Char → List Char
  | [] => []
  | '\t' :: s =>
    let n := if size = 0 then 0 else size - column % size
    List.replicate n ' ' ++ expandTabs size (column + n) s
  | c :: s => c :: expandTabs size (if c == '\n' || c == '\r' then 0 else column + 1) s

/-- The part of a list between two positions, counted from the end when negative and kept inside
the list; nothing when they cross. -/
def window {α : Type} (start stop : Int) (s : List α) : Option (Nat × List α) :=
  let n : Int := s.length
  let stop := if stop > n then n else if stop < 0 then max (stop + n) 0 else stop
  let start := if start < 0 then max (start + n) 0 else start
  if start > stop then none
  else some (start.toNat, (s.drop start.toNat).take (stop - start).toNat)

end Treewalk.Text
