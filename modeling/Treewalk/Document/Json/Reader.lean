import Treewalk.Decimal.Reader
import Treewalk.Document.Basic

/-!
# JSON texts as documents

`Treewalk.Json.read` reads a text that is one JSON value with blanks around it. Beyond the standard
it admits `NaN`, `Infinity` and `-Infinity`; within a mapping the last of several equal keys wins
and keeps the place of the first.

A failure says what was wrong and on which line. The reading functions work on the characters that
are left, so a failure holds the rest of the text at the point it speaks of.
-/

namespace Treewalk.Json

open Treewalk.Decimal

/-- What is wrong with a text. -/
inductive Problem where
  | value
  | comma
  | colon
  | key
  | extra
  | unterminated
  | control
  | escape
  | unicodeEscape
  | byteOrderMark
  deriving DecidableEq, Repr

/-- What a problem says. -/
def Problem.text : Problem → String
  | .value => "Expecting value"
  | .comma => "Expecting ',' delimiter"
  | .colon => "Expecting ':' delimiter"
  | .key => "Expecting property name enclosed in double quotes"
  | .extra => "Extra data"
  | .unterminated => "Unterminated string starting at"
  | .control => "Invalid control character at"
  | .escape => "Invalid \\escape"
  | .unicodeEscape => "Invalid \\uXXXX escape"
  | .byteOrderMark => "Unexpected UTF-8 BOM (decode using utf-8-sig)"

/-- A failed reading: a problem with the rest of the text where it was met, or an integer with too
many digits. -/
inductive Failure where
  | at (problem : Problem) (rest : List Char)
  | tooLong (digits : Nat)

/-- The blanks between tokens. -/
def isSpace (c : Char) : Bool := c = ' ' || c = '\t' || c = '\n' || c = '\r'

/-- A text without the blanks in front. -/
def skip (s : List Char) : List Char := s.dropWhile isSpace

/-- The character of a one-letter escape. -/
def unescape? : Char → Option Char
  | '"' => some '"'
  | '\\' => some '\\'
  | '/' => some '/'
  | 'b' => some '\x08'
  | 'f' => some '\x0c'
  | 'n' => some '\n'
  | 'r' => some '\r'
  | 't' => some '\t'
  | _ => none

/-- The value of four hexadecimal digits. -/
def hex4? (a b c d : Char) : Option Nat := natIn? 16 0 [a, b, c, d]

/-- Whether a number is the first half of a pair that stands for one character. -/
def isHighHalf (n : Nat) : Bool := 0xD800 ≤ n && n < 0xDC00

/-- Whether a number is the second half of a pair. -/
def isLowHalf (n : Nat) : Bool := 0xDC00 ≤ n && n < 0xE000

/-- The character of a code point. Half of a pair alone is no character, and what stands for it here
is the replacement character. So a text with such a half in it is not kept apart from one with that
character, and no stream is asked to write it, which is what most streams refuse. -/
def charOf (n : Nat) : Char :=
  if isHighHalf n || isLowHalf n then Char.ofNat 0xFFFD else Char.ofNat n

/-- The character of a pair of halves. -/
def charOfPair (high low : Nat) : Char :=
  Char.ofNat (0x10000 + (high - 0xD800) * 0x400 + (low - 0xDC00))

/-- Reads an escape of four hexadecimal digits, after its mark `u`. Two of them in a row may be
the halves of one character. Something has to follow, if only the closing quote. -/
def readUnicode? : List Char → Option (Char × List Char)
  | a :: b :: c :: d :: rest =>
    match hex4? a b c d, rest with
    | none, _ | _, [] => none
    | some n, '\\' :: 'u' :: a' :: b' :: c' :: d' :: e :: after =>
      if isHighHalf n then
        match hex4? a' b' c' d' with
        | none => none
        | some m =>
          if isLowHalf m then some (charOfPair n m, e :: after) else some (charOf n, rest)
      else some (charOf n, rest)
    | some n, _ => some (charOf n, rest)
  | _ => none

theorem length_readUnicode? {s rest : List Char} {c : Char} (h : readUnicode? s = some (c, rest)) :
    rest.length < s.length := by
  unfold readUnicode? at h
  repeat' split at h
  all_goals simp only [Option.some.injEq, Prod.mk.injEq, reduceCtorEq] at h
  all_goals
    rw [← h.2]
    simp only [List.length_cons]
    omega

/-- Reads the characters of a string up to its closing quote. `start` is the text from the opening
quote on. -/
def readChars (start : List Char) : List Char → Except Failure (List Char × List Char)
  | [] => .error (.at .unterminated start)
  | '"' :: rest => .ok ([], rest)
  | ['\\'] => .error (.at .unterminated start)
  | '\\' :: 'u' :: rest =>
    match _h : readUnicode? rest with
    | none => .error (.at .unicodeEscape ('u' :: rest))
    | some (c, after) => (readChars start after).map fun (cs, r) => (c :: cs, r)
  | '\\' :: e :: rest =>
    match unescape? e with
    | none => .error (.at .escape ('\\' :: e :: rest))
    | some c => (readChars start rest).map fun (cs, r) => (c :: cs, r)
  | c :: rest =>
    if c.toNat < 0x20 then .error (.at .control (c :: rest))
    else (readChars start rest).map fun (cs, r) => (c :: cs, r)
termination_by s => s.length
decreasing_by
  · have := length_readUnicode? ‹readUnicode? _ = some _›
    simp
    omega
  · simp only [List.length_cons]
    omega
  · simp

/-- The digits in front of a text. -/
def takeDigits (s : List Char) : List Char × List Char := s.span isAsciiDigit

/-- The fraction of a number, if there is one: a point and at least one digit. -/
def takeFraction : List Char → List Char × List Char
  | '.' :: rest =>
    let (ds, after) := takeDigits rest
    if ds.isEmpty then ([], '.' :: rest) else ('.' :: ds, after)
  | s => ([], s)

/-- The exponent of a number, if there is one: a mark, perhaps a sign, and at least one digit. -/
def takeExponent (s : List Char) : List Char × List Char :=
  match s with
  | e :: rest =>
    if e = 'e' || e = 'E' then
      let (sign, rest) := match rest with
        | '+' :: r => (['+'], r)
        | '-' :: r => (['-'], r)
        | r => ([], r)
      let (ds, after) := takeDigits rest
      if ds.isEmpty then ([], s) else (e :: (sign ++ ds), after)
    else ([], s)
  | [] => ([], [])

/-- The whole part of a number: a single zero, or digits that do not start with one. -/
def takeWhole : List Char → List Char × List Char
  | '0' :: rest => (['0'], rest)
  | s => takeDigits s

/-- Reads a number without its sign. `start` is the text from the sign on. -/
def readUnsigned (start : List Char) (negative : Bool) (s : List Char) : Except Failure (Document × List Char) :=
  let (whole, s) := takeWhole s
  let (fraction, s) := takeFraction s
  let (exponent, s) := takeExponent s
  if whole.isEmpty then .error (.at .value start)
  else if fraction.isEmpty && exponent.isEmpty then
    if maxDigits < whole.length then .error (.tooLong whole.length)
    else
      let n : Int := natOf whole
      .ok (.int (if negative then -n else n), s)
  else
    match Decimal.readUnsigned? negative (whole ++ fraction ++ exponent) with
    | some x => .ok (.number x, s)
    | none => .error (.at .value start)

/-- Reads a number. -/
def readNumber : List Char → Except Failure (Document × List Char)
  | '-' :: rest => readUnsigned ('-' :: rest) true rest
  | s => readUnsigned s false s

/-- The mark of what is not a number in JSON: all of them are one object. -/
def nanMark : Nat := 1

/-- Reads a text after its opening quote. -/
def readString (s : List Char) : Except Failure (String × List Char) := do
  let (cs, rest) ← readChars ('"' :: s) s
  return (String.ofList cs, rest)

mutual

/-- Reads a value. -/
def readValue : (fuel : Nat) → List Char → Except Failure (Document × List Char)
  | 0, s => .error (.at .value s)
  | fuel + 1, s =>
    match s with
    | '"' :: rest => do
      let (text, rest) ← readString rest
      return (.str text, rest)
    | '\x7b' :: rest =>
      match skip rest with
      | '\x7d' :: rest => .ok (.mapping none [], rest)
      | rest => readEntries fuel [] rest
    | '[' :: rest =>
      match skip rest with
      | ']' :: rest => .ok (.list none [], rest)
      | rest => do
        let (items, rest) ← readItems fuel rest
        return (.list none items, rest)
    | 'n' :: 'u' :: 'l' :: 'l' :: rest => .ok (.nil, rest)
    | 't' :: 'r' :: 'u' :: 'e' :: rest => .ok (.bool true, rest)
    | 'f' :: 'a' :: 'l' :: 's' :: 'e' :: rest => .ok (.bool false, rest)
    | 'N' :: 'a' :: 'N' :: rest => .ok (.literal (.float notANumber nanMark), rest)
    | 'I' :: 'n' :: 'f' :: 'i' :: 'n' :: 'i' :: 't' :: 'y' :: rest =>
      .ok (.number (infinity false), rest)
    | '-' :: 'I' :: 'n' :: 'f' :: 'i' :: 'n' :: 'i' :: 't' :: 'y' :: rest =>
      .ok (.number (infinity true), rest)
    | s => readNumber s

/-- Reads the items of a list and its closing bracket. -/
def readItems : (fuel : Nat) → List Char → Except Failure (List Document × List Char)
  | 0, s => .error (.at .value s)
  | fuel + 1, s => do
    let (d, rest) ← readValue fuel s
    match skip rest with
    | ']' :: rest => return ([d], rest)
    | ',' :: rest =>
      let (items, rest) ← readItems fuel (skip rest)
      return (d :: items, rest)
    | rest => .error (.at .comma rest)

/-- Reads the entries of a mapping and its closing brace, after the entries read so far. -/
def readEntries : (fuel : Nat) → List (Document × Document) → List Char → Except Failure (Document × List Char)
  | 0, _, s => .error (.at .value s)
  | fuel + 1, entries, s =>
    match s with
    | '"' :: rest => do
      let (name, rest) ← readString rest
      match skip rest with
      | ':' :: rest =>
        let (d, rest) ← readValue fuel (skip rest)
        let entries := Document.put (.str name) d entries
        match skip rest with
        | '\x7d' :: rest => return (.mapping none entries, rest)
        | ',' :: rest => readEntries fuel entries (skip rest)
        | rest => .error (.at .comma rest)
      | rest => .error (.at .colon rest)
    | s => .error (.at .key s)

end

/-- Reads a text that is one value. -/
def readText (s : List Char) : Except Failure Document :=
  match s with
  | c :: _ =>
    if c = Char.ofNat 0xFEFF then .error (.at .byteOrderMark s)
    else do
      let (d, rest) ← readValue (2 * s.length + 2) (skip s)
      match skip rest with
      | [] => return d
      | rest => .error (.at .extra rest)
  | [] => .error (.at .value [])

/-- The line of a text, counted from one, on which its given rest begins. -/
def lineOf (s rest : List Char) : Nat :=
  (s.take (s.length - rest.length)).count '\n' + 1

/-- Why a text was not read. -/
inductive Refusal where
  | problem (problem : Problem) (line : Nat)
  | tooLong (digits : Nat)

/-- Reads a JSON text. Each list and mapping of it is an object of its own. -/
def read (s : String) : Except Refusal Document :=
  match readText s.toList with
  | .ok d => .ok d.numbered
  | .error (.at p rest) => .error (.problem p (lineOf s.toList rest))
  | .error (.tooLong n) => .error (.tooLong n)

end Treewalk.Json
