import Treewalk.Document.Json.Writer
import Treewalk.Document.Yaml.Cursor
import Treewalk.Document.Yaml.Scalar

/-!
# Documents as YAML texts

`Treewalk.Yaml.write` writes a document in block style with two blanks of indentation. A part with
a label that occurs again is written once under an anchor and later by an alias. A text is written
plain if it reads back as the same text, else in single quotes, else in double quotes, which alone
can hold characters outside ASCII. Lines are broken at blanks beyond column 80.
-/

namespace Treewalk.Yaml

/-! ### Scalars -/

/-- A double as YAML: an exponent needs a point before it. -/
def floatText (x : Float) : String :=
  match Decimal.shape x with
  | .nan => ".nan"
  | .infinite negative => if negative then "-.inf" else ".inf"
  | .finite _ =>
    let s := (Decimal.render x).toList
    if s.contains '.' then String.ofList s
    else String.ofList (Text.replace ['e'] ['.', '0', 'e'] 1 s)

/-- A scalar document as a text with its tag. -/
def scalarText : Document → Except Mishap (Tag × String)
  | .literal .nil => .ok (.nil, "null")
  | .literal (.bool b) => .ok (.bool, if b then "true" else "false")
  | .literal (.int n) => if Decimal.isTooLong n then .error .tooManyDigits else .ok (.int, toString n)
  | .literal (.float x _) => .ok (.float, floatText x)
  | .date _ d => .ok (.timestamp, d.iso)
  | .moment _ t => .ok (.timestamp, t.iso " ")
  | .str s => .ok (.str, s)
  | .list _ _ | .mapping _ _ | .back _ _ => .ok (.str, "")

/-- How a scalar is written. -/
inductive Style where
  | plain
  | single
  | double
  deriving DecidableEq

/-- What matters about a text for the choice of its style. -/
structure Analysis where
  /-- There is an indicator that a plain scalar in a block may not hold. -/
  indicators : Bool := false
  lineBreaks : Bool := false
  special : Bool := false
  breakSpace : Bool := false
  spaceBreak : Bool := false

/-- The line breaks inside a text that is written. -/
def isTextBreak (c : Char) : Bool := isBreak c && c != '\r'

/-- Whether a character starts something other than a plain scalar. -/
def startsOther (c : Char) : Bool :=
  c ∈ ['#', ',', '[', ']', '\x7b', '\x7d', '&', '*', '!', '|', '>', '\'', '"', '%', '@',
    Char.ofNat 0x60]

/-- Analyses the rest of a text after the given character, if any. -/
def analyzeFrom : (before : Option Char) → List Char → Analysis
  | _, [] => {}
  | before, c :: rest =>
    let a := analyzeFrom (some c) rest
    let gapNext := rest.isEmpty || isGap (rest.headD endMark)
    let gapBefore := before.elim true isGap
    let indicator := match before with
      | none => startsOther c || ((c = '?' || c = ':' || c = '-') && gapNext)
      | some _ => (c = ':' && gapNext) || (c = '#' && gapBefore)
    { indicators := a.indicators || indicator
      lineBreaks := a.lineBreaks || isTextBreak c
      special := a.special || !(c = '\n' || (' ' ≤ c && c ≤ '~'))
      breakSpace := a.breakSpace || (c = ' ' && before.elim false isTextBreak)
      spaceBreak := a.spaceBreak || (isTextBreak c && before == some ' ') }

/-- Analyses a text. -/
def analyze (s : List Char) : Analysis :=
  let a := analyzeFrom none s
  let separator := s.take 3 == ['-', '-', '-'] || s.take 3 == ['.', '.', '.']
  { a with indicators := a.indicators || separator }

/-- Whether a text may be written plain: not empty, on one line, with no blank at an end. -/
def allowsPlain (s : List Char) (a : Analysis) : Bool :=
  let isEdge := fun (c : Option Char) => c.elim true fun c => c = ' ' || isTextBreak c
  !isEdge s.head? && !isEdge s.getLast? && !a.breakSpace && !a.spaceBreak && !a.special &&
    !a.lineBreaks && !a.indicators

/-- The style of a scalar. As a simple key it has to stand on one line. -/
def chooseStyle (tag : Tag) (text : String) (simpleKey : Bool) : Style :=
  let s := text.toList
  let a := analyze s
  if Tag.ofPlain text = tag && allowsPlain s a then .plain
  else if !(a.breakSpace || a.spaceBreak || a.special) && !(simpleKey && a.lineBreaks) then .single
  else .double

/-- The number of characters of a tag in its short form. -/
def tagLength (tag : Tag) : Nat := tag.name.length - Tag.stem.length + 2

/-- Whether a scalar may be a key on one line with its value. -/
def isSimpleKey (anchorLength : Nat) (tag : Tag) (text : String) : Bool :=
  anchorLength + tagLength tag + text.length < 128 && text != "" &&
    !text.toList.any isTextBreak

/-! ### The sheet that is written on -/

/-- What has been written, the last character first, and what matters for the next piece: the
column, whether a blank was written last, whether only indentation was written on this line, and
whether a plain scalar stands open at the end of the document. -/
structure Sheet where
  written : List Char
  column : Nat
  whitespace : Bool
  indention : Bool
  openEnded : Bool

namespace Sheet

/-- An empty sheet. -/
def blank : Sheet := ⟨[], 0, true, true, false⟩

/-- Writes characters on the current line. -/
def put (s : Sheet) (cs : List Char) : Sheet :=
  { s with written := cs.reverse ++ s.written, column := s.column + cs.length }

/-- Breaks the line with a character. -/
def breakWith (s : Sheet) (c : Char) : Sheet :=
  { s with written := c :: s.written, column := 0, whitespace := true, indention := true }

/-- Writes an indicator, after a blank if one is needed. -/
def indicator (s : Sheet) (text : String) (needSpace whitespace indention : Bool) : Sheet :=
  let cs := text.toList
  let s := s.put (if s.whitespace || !needSpace then cs else ' ' :: cs)
  { s with whitespace := whitespace, indention := s.indention && indention, openEnded := false }

/-- Goes to an indentation, on a new line if this one has been used. -/
def indentTo (s : Sheet) (indent : Nat) : Sheet :=
  let s := if !s.indention || indent < s.column || (s.column = indent && !s.whitespace) then
    s.breakWith '\n' else s
  if s.column < indent then
    { s.put (List.replicate (indent - s.column) ' ') with whitespace := true }
  else s

/-- The column beyond which a line is broken at a blank. -/
def width : Nat := 80

/-- Marks that something other than blanks was written last. -/
def inked (s : Sheet) : Sheet := { s with whitespace := false, indention := false }

/-- Writes the words of a plain scalar, given as runs of blanks and of other characters. -/
def plainRuns (split : Bool) (indent : Nat) : Sheet → List (List Char) → Sheet
  | s, [] => s
  | s, run :: rest =>
    let s := if run = [' '] && width < s.column && split then (s.indentTo indent).inked
      else s.put run
    plainRuns split indent s rest

/-- Cuts a text into runs of blanks, of line breaks, and of other characters. -/
def runs (s : List Char) : List (List Char) :=
  s.splitBy fun a b => kind a == kind b
where
  kind (c : Char) : Nat := if c = ' ' then 0 else if isTextBreak c then 1 else 2

/-- Writes a plain scalar. -/
def plain (s : Sheet) (text : List Char) (split root : Bool) (indent : Nat) : Sheet :=
  let s := { s with openEnded := s.openEnded || root }
  if text.isEmpty then s
  else
    let s := if s.whitespace then s else s.put [' ']
    plainRuns split indent s.inked (runs text)

/-- Writes the runs of a scalar in single quotes. A single blank inside may break the line; a line
break of the text becomes an empty line. -/
def singleRuns (split : Bool) (indent : Nat) : (first : Bool) → Sheet → List (List Char) → Sheet
  | _, s, [] => s
  | first, s, run :: rest =>
    let s := match run with
      | ' ' :: more =>
        if more.isEmpty && width < s.column && split && !first && !rest.isEmpty then
          s.indentTo indent
        else s.put run
      | c :: _ =>
        if isTextBreak c then
          let s := if c = '\n' then s.breakWith '\n' else s
          (run.foldl breakWith s).indentTo indent
        else s.put (run.flatMap fun c => if c = '\'' then ['\'', '\''] else [c])
      | [] => s
    singleRuns split indent false s rest

/-- Writes a scalar in single quotes. -/
def single (s : Sheet) (text : List Char) (split : Bool) (indent : Nat) : Sheet :=
  (singleRuns split indent true (s.indicator "'" true false false) (runs text)).indicator
    "'" false false false

/-- The letter of a short escape. -/
def shortEscape? (c : Char) : Option Char :=
  match c.toNat with
  | 0x00 => some '0'
  | 0x07 => some 'a'
  | 0x08 => some 'b'
  | 0x09 => some 't'
  | 0x0A => some 'n'
  | 0x0B => some 'v'
  | 0x0C => some 'f'
  | 0x0D => some 'r'
  | 0x1B => some 'e'
  | 0x22 => some '"'
  | 0x5C => some '\\'
  | 0x85 => some 'N'
  | 0xA0 => some '_'
  | 0x2028 => some 'L'
  | 0x2029 => some 'P'
  | _ => none

/-- Hexadecimal digits in capitals. -/
def capitalHex (digits n : Nat) : List Char := (Text.hexPadded digits n).map Char.toUpper

/-- The escape of a character. -/
def escape (c : Char) : List Char :=
  match shortEscape? c with
  | some x => ['\\', x]
  | none =>
    if c.toNat ≤ 0xFF then '\\' :: 'x' :: capitalHex 2 c.toNat
    else if c.toNat ≤ 0xFFFF then '\\' :: 'u' :: capitalHex 4 c.toNat
    else '\\' :: 'U' :: capitalHex 8 c.toNat

/-- Whether a character stands for itself in double quotes. -/
def isBare (c : Char) : Bool := ' ' ≤ c && c ≤ '~' && c != '"' && c != '\\'

/-- Writes the characters of a scalar in double quotes. `held` are bare characters that are not
written yet, the last one first. A long line is broken, with a backslash, at a blank or after an
escape, and a blank at the start of a line is escaped. -/
def doubleChars (split : Bool) (indent : Nat) :
    (first : Bool) → (held : List Char) → Sheet → List Char → Sheet
  | _, held, s, [] => s.put held.reverse
  | first, held, s, c :: rest =>
    if isBare c then
      if (c = ' ' || held.isEmpty) && !first && !rest.isEmpty && width < s.column + held.length &&
          split then
        let s := ((s.put (held.reverse ++ ['\\'])).indentTo indent).inked
        doubleChars split indent false [c] (if c = ' ' then s.put ['\\'] else s) rest
      else doubleChars split indent false (c :: held) s rest
    else
      let s := (s.put held.reverse).put (escape c)
      let s := if !first && !rest.isEmpty && width + 1 < s.column && split then
          let s := ((s.put ['\\']).indentTo indent).inked
          if rest.head? == some ' ' then s.put ['\\'] else s
        else s
      doubleChars split indent false [] s rest

/-- Writes a scalar in double quotes. -/
def double (s : Sheet) (text : List Char) (split : Bool) (indent : Nat) : Sheet :=
  (doubleChars split indent true [] (s.indicator "\"" true false false) text).indicator
    "\"" false false false

end Sheet

/-! ### Documents -/

/-- The labels met so far, and the anchors given to those met again, the last one first. -/
structure Anchors where
  met : List Nat
  again : List Nat

/-- Meets a labelled part; false if it was met before. -/
def Anchors.meet (a : Anchors) (label : Nat) : Bool × Anchors :=
  if a.met.contains label then
    (false, if a.again.contains label then a else { a with again := label :: a.again })
  else (true, { a with met := label :: a.met })

mutual

/-- Finds the labels that occur more than once. -/
def findAnchors : Document → StateM Anchors Unit
  | .literal _ | .str _ => return
  | .date label _ | .moment label _ =>
    match label with
    | some n => do let _ ← modifyGet (·.meet n)
    | none => return
  | .back label _ => do let _ ← modifyGet (·.meet label)
  | .list label items => do
    let isNew ← match label with
      | some n => modifyGet (·.meet n)
      | none => pure true
    if isNew then findInItems items
  | .mapping label entries => do
    let isNew ← match label with
      | some n => modifyGet (·.meet n)
      | none => pure true
    if isNew then findInEntries entries

/-- Finds the labels among the items of a list. -/
def findInItems : List Document → StateM Anchors Unit
  | [] => return
  | d :: rest => do
    findAnchors d
    findInItems rest

/-- Finds the labels among the entries of a mapping. -/
def findInEntries : List (Document × Document) → StateM Anchors Unit
  | [] => return
  | (k, v) :: rest => do
    findAnchors k
    findAnchors v
    findInEntries rest

end

/-- Where a node is written. -/
inductive Position where
  | root
  | item
  | simpleKey
  | entry
  deriving DecidableEq

/-- The state of writing: the sheet, and the labels that have been written. -/
structure Writer where
  sheet : Sheet
  done : List Nat

/-- A step of writing. -/
abbrev Write := StateT Writer (Except Mishap)

namespace Write

/-- Changes the sheet. -/
def onSheet (f : Sheet → Sheet) : Write Unit := modify fun w => { w with sheet := f w.sheet }

/-- The anchor of a label, given the labels that occur again in their order. -/
def anchorName? (again : List Nat) (label : Option Nat) : Option String := do
  let n ← label
  let i ← again.idxOf? n
  return "id" ++ String.ofList (Decimal.padded 3 (i + 1))

/-- Writes the anchor of a labelled part, or an alias in its place; true for an alias. -/
def mark (again : List Nat) (label : Option Nat) : Write Bool := do
  match label, anchorName? again label with
  | some n, some name =>
    if (← get).done.contains n then
      onSheet (·.indicator ("*" ++ name) true false false)
      return true
    else
      modify fun w => { w with done := n :: w.done }
      onSheet (·.indicator ("&" ++ name) true false false)
      return false
  | _, _ => return false

/-- Writes a scalar. -/
def scalar (position : Position) (indent : Option Nat) (d : Document) : Write Unit := do
  let (tag, text) ← scalarText d
  let split := position != .simpleKey
  let inner := indent.elim 2 (· + 2)
  let cs := text.toList
  match chooseStyle tag text (!split) with
  | .plain => onSheet (·.plain cs split (position = .root) inner)
  | .single => onSheet (·.single cs split inner)
  | .double => onSheet (·.double cs split inner)

/-- The label of a document. -/
def labelOf : Document → Option Nat
  | .date l _ | .moment l _ | .list l _ | .mapping l _ => l
  | .back l _ => some l
  | .literal _ | .str _ => none

/-- Whether a key may stand on one line with its value. An alias always may. -/
def keyIsSimple (again : List Nat) (k : Document) : Write Bool := do
  let name := anchorName? again (labelOf k)
  let isAlias := name.isSome && (← get).done.any fun n => labelOf k == some n
  let (tag, text) ← scalarText k
  return isAlias || isSimpleKey (name.elim 0 String.length) tag text

mutual

/-- Writes a node. `indent` is the indentation around it, none at the root. -/
def node (again : List Nat) (position : Position) (indent : Option Nat) : Document → Write Unit
  | .back label _ => do let _ ← mark again (some label)
  | .list label elements => do
    if ← mark again label then return
    if elements.isEmpty then
      onSheet fun s => (s.indicator "[" true true false).indicator "]" false false false
    else
      let isMappingPart := position = .entry || position = .simpleKey
      let indentless := isMappingPart && !(← get).sheet.indention
      let inner := indent.elim 0 fun n => if indentless then n else n + 2
      items again inner elements
  | .mapping label pairs => do
    if ← mark again label then return
    if pairs.isEmpty then
      onSheet fun s => (s.indicator "\x7b" true true false).indicator "\x7d" false false false
    else entries again (indent.elim 0 (· + 2)) pairs
  | d => do
    if ← mark again (labelOf d) then return
    scalar position indent d

/-- Writes the items of a list. -/
def items (again : List Nat) (indent : Nat) : List Document → Write Unit
  | [] => return
  | d :: rest => do
    onSheet fun s => (s.indentTo indent).indicator "-" true false true
    node again .item (some indent) d
    items again indent rest

/-- Writes the entries of a mapping. -/
def entries (again : List Nat) (indent : Nat) : List (Document × Document) → Write Unit
  | [] => return
  | (k, v) :: rest => do
    onSheet (·.indentTo indent)
    if ← keyIsSimple again k then
      node again .simpleKey (some indent) k
      onSheet (·.indicator ":" false false false)
    else
      onSheet (·.indicator "?" true false true)
      node again .entry (some indent) k
      onSheet fun s => (s.indentTo indent).indicator ":" true false true
    node again .entry (some indent) v
    entries again indent rest

end

end Write

/-- Writes a document as a YAML text. A plain scalar alone is followed by a mark of the end. -/
def write (d : Document) : Except Mishap String := do
  let again := (findAnchors d ⟨[], []⟩).2.again.reverse
  let ((), w) ← Write.node again .root none d ⟨.blank, []⟩
  let s := w.sheet.indentTo 0
  let s := if s.openEnded then (s.indicator "..." true false false).indentTo 0 else s
  return String.ofList s.written.reverse

end Treewalk.Yaml
