import Treewalk.Decimal.Reader
import Treewalk.Document.Yaml.Cursor
import Treewalk.Text.Utf8

/-!
# The lexemes of YAML

Directives, anchors, tags and the five styles of scalars, each as a reading from its first character
to its last. Loops over a text are bounded by the number of characters left.
-/

namespace Treewalk.Yaml

/-- A directive: the version of the format, a tag handle with what it stands for, or any other. -/
inductive Directive where
  | version (major minor : Nat)
  | handle (handle stem : String)
  | other (name : String)

namespace Lexeme

open Scan

/-- The characters of anchors and of the names of directives and handles. -/
def isWord (c : Char) : Bool := c.isAlphanum || c = '-' || c = '_'

/-- The value of hexadecimal digits. -/
def hexValue (ds : List Char) : Nat := (Decimal.natIn? 16 0 ds).getD 0

def isHexDigit (c : Char) : Bool := (Decimal.natIn? 16 0 [c]).isSome

/-- The name after an anchor's or an alias's mark. -/
def anchorName : Scan String := do
  forward 1
  let name ← take isWord
  if name.isEmpty then fail (.wantedWord (← head))
  let c ← head
  if isGap c || c ∈ ['?', ':', ',', ']', '\x7d', '%', '@', Char.ofNat 0x60] then
    return String.ofList name
  else fail (.wantedWord c)

/-! ### Tags -/

/-- The characters of a tag's address. -/
def isUri (c : Char) : Bool :=
  c.isAlphanum || c ∈ "-;/?:@&=+$,_.!~*'()[]%".toList

/-- The bytes of a run of escapes in a tag's address. -/
def uriOctets : (fuel : Nat) → Scan (List UInt8)
  | 0 => return []
  | fuel + 1 => do
    if (← head) = '%' then
      forward 1
      let a ← peek 0
      if !isHexDigit a then fail (.uriEscape a)
      let b ← peek 1
      if !isHexDigit b then fail (.uriEscape b)
      forward 2
      return UInt8.ofNat (hexValue [a, b]) :: (← uriOctets fuel)
    else return []

/-- A tag's address, with its escapes read. -/
def uri : (fuel : Nat) → Scan (List Char)
  | 0 => return []
  | fuel + 1 => do
    let s ← take fun c => isUri c && c != '%'
    if (← head) = '%' then
      let start ← get
      let octets ← uriOctets start.remaining
      match Text.Utf8.decode? octets with
      | .ok cs => return s ++ cs ++ (← uri fuel)
      | .error b => throw (.problem (.uriEncoding b.text) (start.line + 1))
    else return s

/-- A tag's address, which is not empty. -/
def someUri : Scan String := do
  let s ← uri ((← get).remaining + 1)
  if s.isEmpty then fail (.wantedUri (← head))
  return String.ofList s

/-- A tag's handle: a mark alone, or a name between two marks. -/
def handle : Scan String := do
  let c ← head
  if c != '!' then fail (.wantedMark c)
  if (← peek 1) = ' ' then
    forward 1
    return "!"
  else
    forward 1
    let name ← take isWord
    let c ← head
    if c != '!' then fail (.wantedMark c)
    forward 1
    return "!" ++ String.ofList name ++ "!"

/-- A tag: a handle, unless the tag is written out, and the rest. -/
def tag : Scan (Option String × String) := do
  let c ← peek 1
  let found ← if c = '<' then
      forward 2
      let suffix ← someUri
      let d ← head
      if d != '>' then fail (.wantedAngle d)
      forward 1
      pure (none, suffix)
    else if isGap c then
      forward 1
      pure (none, "!")
    else
      let word := (← get).rest.tail.takeWhile fun c => !isSpaceOrEnd c
      if word.contains '!' then
        let h ← handle
        pure (some h, ← someUri)
      else
        forward 1
        pure (some "!", ← someUri)
  let d ← head
  if isSpaceOrEnd d then return found else fail (.wantedSpace d)

/-! ### Directives -/

/-- A number of the version directive. It may have any number of digits here, more than the integers
of scalars may have. -/
def versionNumber : Scan Nat := do
  let c ← head
  if !c.isDigit then fail (.wantedDigit c)
  return Decimal.natOf (← take Char.isDigit)

/-- A directive with its line. -/
def directive : Scan Directive := do
  forward 1
  let name ← take isWord
  if name.isEmpty then fail (.wantedWord (← head))
  let c ← head
  if !isSpaceOrEnd c then fail (.wantedWord c)
  let found ← if name = "YAML".toList then
      skip (· = ' ')
      let major ← versionNumber
      let c ← head
      if c != '.' then fail (.wantedDigitOrPoint c)
      forward 1
      let minor ← versionNumber
      let c ← head
      if !isSpaceOrEnd c then fail (.wantedDigitOrSpace c)
      pure (Directive.version major minor)
    else if name = "TAG".toList then
      skip (· = ' ')
      let h ← handle
      let c ← head
      if c != ' ' then fail (.wantedSpace c)
      skip (· = ' ')
      let stem ← someUri
      let c ← head
      if !isSpaceOrEnd c then fail (.wantedSpace c)
      pure (Directive.handle h stem)
    else
      skip fun c => !isBreak c
      pure (Directive.other (String.ofList name))
  restOfLine
  return found

/-! ### Quoted scalars -/

/-- The character of a one-letter escape. -/
def unescape? (c : Char) : Option Char :=
  match c with
  | '0' => some (Char.ofNat 0)
  | 'a' => some (Char.ofNat 7)
  | 'b' => some (Char.ofNat 8)
  | 't' | '\t' => some '\t'
  | 'n' => some '\n'
  | 'v' => some (Char.ofNat 0x0B)
  | 'f' => some (Char.ofNat 0x0C)
  | 'r' => some '\r'
  | 'e' => some (Char.ofNat 0x1B)
  | ' ' => some ' '
  | '"' => some '"'
  | '\\' => some '\\'
  | '/' => some '/'
  | 'N' => some (Char.ofNat 0x85)
  | '_' => some (Char.ofNat 0xA0)
  | 'L' => some (Char.ofNat 0x2028)
  | 'P' => some (Char.ofNat 0x2029)
  | _ => none

/-- The number of digits of a numeric escape. -/
def escapeLength? : Char → Option Nat
  | 'x' => some 2
  | 'u' => some 4
  | 'U' => some 8
  | _ => none

/-- The breaks of the empty lines inside a quoted scalar. -/
def quotedBreaks : (fuel : Nat) → Scan (List Char)
  | 0 => return []
  | fuel + 1 => do
    if (← get).isSeparator then fail .documentSeparator
    skip fun c => c = ' ' || c = '\t'
    match ← lineBreak with
    | some b => return b :: (← quotedBreaks fuel)
    | none => return []

/-- The text of a line break and of the empty lines after it: a single break becomes a blank. -/
def folded (first : Char) (breaks : List Char) : List Char :=
  if first != '\n' then first :: breaks
  else if breaks.isEmpty then [' ']
  else breaks

/-- The digits of a numeric escape, and the character they stand for. -/
def escapedCode (count : Nat) : Scan Char := do
  let ds := (← get).rest.take count
  match ds.find? fun c => !isHexDigit c with
  | some c => fail (.escapeDigits count c)
  | none =>
    if ds.length < count then fail (.escapeDigits count endMark)
    let code := hexValue ds
    if 0x80000000 ≤ code then throw (.mishap (.overflow "Python int too large to convert to C int"))
    if 0x110000 ≤ code then throw (.mishap (.value "chr() arg not in range(0x110000)"))
    forward count
    return Char.ofNat code

/-- The characters of a quoted scalar up to the next blank, break or closing quote. -/
def quotedWord (double : Bool) : (fuel : Nat) → Scan (List Char)
  | 0 => return []
  | fuel + 1 => do
    let s ← take fun c => !(c = '\'' || c = '"' || c = '\\' || isGap c)
    let c ← head
    if !double && c = '\'' && (← peek 1) = '\'' then
      forward 2
      return s ++ '\'' :: (← quotedWord double fuel)
    else if (double && c = '\'') || (!double && (c = '"' || c = '\\')) then
      forward 1
      return s ++ c :: (← quotedWord double fuel)
    else if double && c = '\\' then
      forward 1
      let e ← head
      match unescape? e, escapeLength? e with
      | some x, _ =>
        forward 1
        return s ++ x :: (← quotedWord double fuel)
      | none, some count =>
        forward 1
        let x ← escapedCode count
        return s ++ x :: (← quotedWord double fuel)
      | none, none =>
        if isBreak e then
          let _ ← lineBreak
          let breaks ← quotedBreaks ((← get).remaining + 1)
          return s ++ breaks ++ (← quotedWord double fuel)
        else fail (.unknownEscape e)
    else return s

/-- The blanks and breaks inside a quoted scalar. -/
def quotedSpaces : Scan (List Char) := do
  let blanks ← take fun c => c = ' ' || c = '\t'
  if (← head) = endMark then fail .endOfStream
  match ← lineBreak with
  | some b => return folded b (← quotedBreaks ((← get).remaining + 1))
  | none => return blanks

/-- The words of a quoted scalar and the gaps between them, up to the closing quote. -/
def quotedRest (double : Bool) : (fuel : Nat) → Scan (List Char)
  | 0 => return []
  | fuel + 1 => do
    let word ← quotedWord double ((← get).remaining + 1)
    if (← head) = (if double then '"' else '\'') then
      forward 1
      return word
    else
      let gap ← quotedSpaces
      return word ++ gap ++ (← quotedRest double fuel)

/-- A quoted scalar. -/
def quotedScalar (double : Bool) : Scan (List Char) := do
  forward 1
  quotedRest double ((← get).remaining + 1)

/-! ### Block scalars -/

/-- What becomes of the line breaks at the end of a block scalar. -/
inductive Chomping where
  | clip
  | strip
  | keep
  deriving DecidableEq

/-- The chomping indicator, if there is one. -/
def chomping? : Scan (Option Chomping) := do
  match ← head with
  | '+' => forward 1; return some .keep
  | '-' => forward 1; return some .strip
  | _ => return none

/-- The indentation indicator, if there is one. -/
def increment? : Scan (Option Nat) := do
  let c ← head
  if c.isDigit then
    if c = '0' then fail .zeroIndentation
    forward 1
    return some (c.toNat - 48)
  else return none

/-- The indicators of a block scalar, in either order. -/
def blockIndicators : Scan (Chomping × Option Nat) := do
  let found ← match ← chomping? with
    | some chomping => pure (chomping, ← increment?)
    | none =>
      match ← increment? with
      | some n => pure ((← chomping?).getD .clip, some n)
      | none => pure (.clip, none)
  let c ← head
  if isSpaceOrEnd c then return found else fail (.wantedIndicators c)

/-- The empty lines before a block scalar, and the widest indentation among them and the first
line. -/
def blockIndentation : (fuel : Nat) → (widest : Nat) → Scan (List Char × Nat)
  | 0, widest => return ([], widest)
  | fuel + 1, widest => do
    skip (· = ' ')
    let widest := max widest (← get).column
    match ← lineBreak with
    | some b =>
      let (breaks, widest) ← blockIndentation fuel widest
      return (b :: breaks, widest)
    | none => return ([], widest)

/-- Moves over the blanks of an indentation. -/
def indentation (indent : Nat) : Scan Unit := do
  let c ← get
  forward (min (indent - c.column) (c.rest.takeWhile (· = ' ')).length)

/-- The empty lines inside a block scalar. -/
def blockBreaks (indent : Nat) : (fuel : Nat) → Scan (List Char)
  | 0 => return []
  | fuel + 1 => do
    indentation indent
    match ← lineBreak with
    | some b => return b :: (← blockBreaks indent fuel)
    | none => return []

/-- Whether a line of a block scalar starts at the cursor. -/
def atBlockLine (indent : Nat) : Scan Bool := do
  let c ← get
  return c.column = indent && !c.rest.isEmpty

/-- The lines of a block scalar. `breaks` are the breaks before the cursor. -/
def blockLines (isFolded : Bool) (chomping : Chomping) (indent : Nat) :
    (fuel : Nat) → (breaks : List Char) → Scan (List Char)
  | 0, _ => return []
  | fuel + 1, breaks => do
    let c ← head
    let flush := !(c = ' ' || c = '\t')
    let line ← take fun c => !isBreak c
    let lineEnd ← lineBreak
    let after ← blockBreaks indent ((← get).remaining + 1)
    if ← atBlockLine indent then
      let d ← head
      let joint :=
        if isFolded && lineEnd == some '\n' && flush && !(d = ' ' || d = '\t') then
          (if after.isEmpty then [' '] else [])
        else lineEnd.toList
      return breaks ++ line ++ joint ++ (← blockLines isFolded chomping indent fuel after)
    else
      let tail := match chomping with
        | .strip => []
        | .clip => lineEnd.toList
        | .keep => lineEnd.toList ++ after
      return breaks ++ line ++ tail

/-- A block scalar inside a block with the given indentation. -/
def blockScalar (isFolded : Bool) (outer : Int) : Scan (List Char) := do
  forward 1
  let (chomping, increment) ← blockIndicators
  restOfLine
  let least := (max (outer + 1) 1).toNat
  let length := (← get).remaining
  let (breaks, indent) ← match increment with
    | none =>
      let (breaks, widest) ← blockIndentation (length + 1) 0
      pure (breaks, max least widest)
    | some n =>
      let indent := least + n - 1
      pure (← blockBreaks indent (length + 1), indent)
  if ← atBlockLine indent then blockLines isFolded chomping indent (length + 1) breaks
  else return if chomping = .keep then breaks else []

/-! ### Plain scalars -/

/-- The characters that are brackets or commas of the flow style. -/
def isFlowMark (c : Char) : Bool := c ∈ [',', '[', ']', '\x7b', '\x7d']

/-- The characters of a plain scalar up to the next gap or to what cannot be a part of it. -/
def plainRun (inFlow : Bool) : List Char → List Char
  | [] => []
  | c :: rest =>
    let after := rest.headD endMark
    if isGap c || (c = ':' && (isGap after || (inFlow && isFlowMark after))) ||
        (inFlow && (isFlowMark c || c = '?')) then []
    else c :: plainRun inFlow rest

/-- The empty lines inside a plain scalar; nothing if a document ends there. -/
def plainBreaks : (fuel : Nat) → Scan (Option (List Char))
  | 0 => return some []
  | fuel + 1 => do
    skip (· = ' ')
    match ← lineBreak with
    | some b =>
      if (← get).isSeparator then return none
      return (← plainBreaks fuel).map (b :: ·)
    | none => return some []

/-- The gap after a part of a plain scalar, and whether it holds a line break. -/
def plainSpaces : Scan (List Char × Bool) := do
  let blanks ← take (· = ' ')
  match ← lineBreak with
  | none => return (blanks, false)
  | some b =>
    if (← get).isSeparator then return ([], true)
    match ← plainBreaks ((← get).remaining + 1) with
    | none => return ([], true)
    | some breaks => return (folded b breaks, true)

/-- A plain scalar inside a block with the given indentation, and whether a line break comes after
it. `gap` is the gap before the cursor. -/
def plainParts (inFlow : Bool) (outer : Int) :
    (fuel : Nat) → (gap : List Char) → (broken : Bool) → Scan (List Char × Bool)
  | 0, _, broken => return ([], broken)
  | fuel + 1, gap, broken => do
    let c ← get
    let run := if c.head = '#' then [] else plainRun inFlow c.rest
    if run.isEmpty then return ([], broken)
    forward run.length
    let (spaces, broken) ← plainSpaces
    let c ← get
    if spaces.isEmpty || c.head = '#' || (!inFlow && (c.column : Int) < outer + 1) then
      return (gap ++ run, broken)
    let (others, broken) ← plainParts inFlow outer fuel spaces broken
    return (gap ++ run ++ others, broken)

/-- A plain scalar, and whether a line break comes after it. -/
def plainScalar (inFlow : Bool) (outer : Int) : Scan (List Char × Bool) := do
  plainParts inFlow outer ((← get).remaining + 1) [] false

end Lexeme

end Treewalk.Yaml
