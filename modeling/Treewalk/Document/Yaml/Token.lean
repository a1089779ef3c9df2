import Treewalk.Document.Yaml.Lexeme

/-!
# YAML texts as tokens

`Treewalk.Yaml.Token.scan` cuts a text into tokens. Indentation becomes start and end tokens. A
*simple key* is recognised only when its colon is met, so the tokens that mark it are put in front
of tokens that were read before.

The reader of the tokens looks at one token at a time, and a text is read only as far as the token
asked for can still change. A complaint therefore counts only once the tokens before it are used
up: `scan` gives the tokens that can be had, and the complaint that comes after them, if any.
-/

namespace Treewalk.Yaml

/-- The kinds of tokens. -/
inductive TokenKind where
  | streamStart
  | streamEnd
  | directive (d : Directive)
  | documentStart
  | documentEnd
  | blockSequenceStart
  | blockMappingStart
  | blockEnd
  | flowSequenceStart
  | flowMappingStart
  | flowSequenceEnd
  | flowMappingEnd
  | key
  | value
  | blockEntry
  | flowEntry
  | alias (name : String)
  | anchor (name : String)
  | tag (handle : Option String) (suffix : String)
  | scalar (text : String) (plain : Bool)

/-- A token, with the line it starts on, counted from one. -/
structure Token where
  kind : TokenKind
  line : Nat

namespace TokenKind

/-- The name of a kind of tokens in messages. -/
def title : TokenKind → String
  | .streamStart => "<stream start>"
  | .streamEnd => "<stream end>"
  | .directive _ => "<directive>"
  | .documentStart => "<document start>"
  | .documentEnd => "<document end>"
  | .blockSequenceStart => "<block sequence start>"
  | .blockMappingStart => "<block mapping start>"
  | .blockEnd => "<block end>"
  | .flowSequenceStart => "["
  | .flowMappingStart => "\x7b"
  | .flowSequenceEnd => "]"
  | .flowMappingEnd => "\x7d"
  | .key => "?"
  | .value => ":"
  | .blockEntry => "-"
  | .flowEntry => ","
  | .alias _ => "<alias>"
  | .anchor _ => "<anchor>"
  | .tag _ _ => "<tag>"
  | .scalar _ _ => "<scalar>"

end TokenKind

namespace Token

/-- A place where a simple key may have started. It is required where nothing else can stand. -/
structure Key where
  number : Nat
  required : Bool
  index : Nat
  line : Nat
  column : Nat

/-- The state of scanning. The tokens stand with the last one first, and `count` is their number.
`flow` counts the open brackets; an unmatched closing bracket makes it negative, and the reader of
the tokens complains. -/
structure Scanner where
  cursor : Cursor
  tokens : List Token
  count : Nat
  indent : Int
  indents : List Int
  flow : Int
  allowKey : Bool
  keys : List (Int × Key)

/-- A step of scanning. -/
abbrev Step := StateT Scanner (Except Refusal)

namespace Scanner

/-- Scanning starts with a token of its own. -/
def start (s : List Char) : Scanner :=
  ⟨.ofText s, [⟨.streamStart, 1⟩], 1, -1, [], 0, true, []⟩

/-- Whether the scanner is inside brackets. -/
def inFlow (s : Scanner) : Bool := s.flow != 0

/-- Adds a token at the end. -/
def push (s : Scanner) (t : Token) : Scanner :=
  { s with tokens := t :: s.tokens, count := s.count + 1 }

/-- Puts a token in front of the token with a number. -/
def insert (s : Scanner) (number : Nat) (t : Token) : Scanner :=
  let later := s.count - number
  { s with tokens := s.tokens.take later ++ t :: s.tokens.drop later, count := s.count + 1 }

/-- The tokens that can no longer change, in order. -/
def settled (s : Scanner) : List Token :=
  let size := s.keys.foldl (fun n k => min n k.2.number) s.count
  (s.tokens.drop (s.count - size)).reverse

end Scanner

namespace Step

/-- Runs a reading of a lexeme at the cursor. -/
def lex {α : Type} (x : Scan α) : Step α := fun s =>
  match x s.cursor with
  | .ok (a, c) => .ok (a, { s with cursor := c })
  | .error e => .error e

/-- Complains about the line of the cursor. -/
def fail {α : Type} (p : Problem) : Step α := do throw (.problem p ((← get).cursor.line + 1))

/-- Adds a token that starts on the line of the cursor. -/
def add (kind : TokenKind) : Step Unit :=
  modify fun s => s.push ⟨kind, s.cursor.line + 1⟩

/-- Adds a token of several characters. -/
def addMark (kind : TokenKind) (length : Nat) : Step Unit := do
  add kind
  lex (Scan.forward length)

/-- Adds the token that a lexeme gives, on the line where the lexeme starts. -/
def addLexeme {α : Type} (x : Scan α) (kind : α → TokenKind) : Step α := do
  let line := (← get).cursor.line + 1
  let a ← lex x
  modify fun s => s.push ⟨kind a, line⟩
  return a

/-- Allows or forbids a simple key to start next. -/
def allow (b : Bool) : Step Unit := modify fun s => { s with allowKey := b }

/-- Gives up the places of simple keys that are too far away: on another line, or more than 1024
characters back. -/
def dropStale : Step Unit := do
  let s ← get
  let stale := fun (k : Int × Key) =>
    k.2.line != s.cursor.line || 1024 < s.cursor.index - k.2.index
  if s.keys.any fun k => stale k && k.2.required then fail .missingColon
  set { s with keys := s.keys.filter fun k => !stale k }

/-- Gives up the place of a simple key at this level of brackets. -/
def dropKey : Step Unit := do
  let s ← get
  if s.keys.any fun k => k.1 = s.flow && k.2.required then fail .missingColon
  set { s with keys := s.keys.filter fun k => k.1 != s.flow }

/-- Remembers the cursor as a place where a simple key may start. -/
def saveKey : Step Unit := do
  let s ← get
  let required := !s.inFlow && s.indent = (s.cursor.column : Int)
  if s.allowKey then
    dropKey
    modify fun s => { s with keys :=
      (s.flow, ⟨s.count, required, s.cursor.index, s.cursor.line, s.cursor.column⟩) :: s.keys }

/-- Closes blocks that are further in than a column. -/
def unwindFrom (column : Int) : (fuel : Nat) → Step Unit
  | 0 => return
  | fuel + 1 => do
    let s ← get
    if !s.inFlow && column < s.indent then
      add .blockEnd
      modify fun s => { s with indent := s.indents.headD (-1), indents := s.indents.tail }
      unwindFrom column fuel

/-- Closes the blocks that are further in than a column. -/
def unwind (column : Int) : Step Unit := do
  unwindFrom column ((← get).indents.length + 1)

/-- Opens a block at a column if it is further in than the current one. -/
def openBlock (column : Nat) : Step Bool := do
  let s ← get
  if s.indent < (column : Int) then
    set { s with indent := (column : Int), indents := s.indent :: s.indents }
    return true
  else return false

/-! ### The tokens, by the character they start with -/

/-- The end of the text. -/
def streamEnd : Step Unit := do
  unwind (-1)
  dropKey
  allow false
  modify fun s => { s with keys := [] }
  add .streamEnd

/-- A directive. -/
def directive : Step Unit := do
  unwind (-1)
  dropKey
  allow false
  let _ ← addLexeme Lexeme.directive .directive

/-- The start or the end of a document. -/
def documentMark (kind : TokenKind) : Step Unit := do
  unwind (-1)
  dropKey
  allow false
  addMark kind 3

/-- An opening bracket. -/
def flowStart (kind : TokenKind) : Step Unit := do
  saveKey
  modify fun s => { s with flow := s.flow + 1, allowKey := true }
  addMark kind 1

/-- A closing bracket. -/
def flowEnd (kind : TokenKind) : Step Unit := do
  dropKey
  modify fun s => { s with flow := s.flow - 1, allowKey := false }
  addMark kind 1

/-- A comma between brackets. -/
def flowEntry : Step Unit := do
  allow true
  dropKey
  addMark .flowEntry 1

/-- The dash of a list's item. -/
def blockEntry : Step Unit := do
  let s ← get
  if !s.inFlow then
    if !s.allowKey then fail .entryNotAllowed
    if ← openBlock s.cursor.column then add .blockSequenceStart
  allow true
  dropKey
  addMark .blockEntry 1

/-- The mark of a key that is not simple. -/
def key : Step Unit := do
  let s ← get
  if !s.inFlow then
    if !s.allowKey then fail .keyNotAllowed
    if ← openBlock s.cursor.column then add .blockMappingStart
  allow (!s.inFlow)
  dropKey
  addMark .key 1

/-- Puts a token in front of a token read before. -/
def insertAt (k : Key) (kind : TokenKind) : Step Unit :=
  modify fun s => s.insert k.number ⟨kind, k.line + 1⟩

/-- A colon. It makes a simple key of what stands before it, if that can be one. -/
def value : Step Unit := do
  let s ← get
  match s.keys.lookup s.flow with
  | some k =>
    set { s with keys := s.keys.filter fun k => k.1 != s.flow }
    insertAt k .key
    if !s.inFlow then
      if ← openBlock k.column then insertAt k .blockMappingStart
    allow false
  | none =>
    if !s.inFlow then
      if !s.allowKey then fail .valueNotAllowed
      if ← openBlock s.cursor.column then add .blockMappingStart
    allow (!s.inFlow)
    dropKey
  addMark .value 1

/-- A lexeme that may start a simple key. -/
def keyLexeme {α : Type} (x : Scan α) (kind : α → TokenKind) : Step Unit := do
  saveKey
  allow false
  let _ ← addLexeme x kind

/-- A block scalar. -/
def blockScalar (folded : Bool) : Step Unit := do
  allow true
  dropKey
  let s ← get
  let _ ← addLexeme (Lexeme.blockScalar folded s.indent) fun t => .scalar (String.ofList t) false

/-- A plain scalar. A simple key may follow it on a new line. -/
def plainScalar : Step Unit := do
  saveKey
  allow false
  let s ← get
  let (_, broken) ← addLexeme (Lexeme.plainScalar s.inFlow s.indent) fun t =>
    .scalar (String.ofList t.1) true
  allow broken

/-- Moves over blanks, comments and line breaks to the next token. -/
def toNextToken : (fuel : Nat) → Step Unit
  | 0 => return
  | fuel + 1 => do
    lex (Scan.skip (· = ' '))
    lex Scan.comment
    if (← lex Scan.lineBreak).isSome then
      if !(← get).inFlow then allow true
      toNextToken fuel

/-- The characters that start no plain scalar. -/
def isIndicator (c : Char) : Bool :=
  isGap c || c ∈ ['-', '?', ':', ',', '[', ']', '\x7b', '\x7d', '#', '&', '*', '!', '|', '>', '\'',
    '"', '%', '@', Char.ofNat 0x60]

/-- Whether a plain scalar starts at a cursor. -/
def startsPlain (c : Cursor) (inFlow : Bool) : Bool :=
  let x := c.head
  !isIndicator x || (!isGap (c.peek 1) && (x = '-' || (!inFlow && (x = '?' || x = ':'))))

/-- Reads the next tokens. -/
def fetch : Step Unit := do
  let start := (← get).cursor
  if start.index = 0 && start.head = byteOrderMark then lex (Scan.forward 1)
  toNextToken (start.remaining + 1)
  dropStale
  unwind (← get).cursor.column
  let s ← get
  let c := s.cursor
  let gapNext := isGap (c.peek 1)
  match c.rest with
  | [] => streamEnd
  | x :: _ =>
    if x = '%' && c.column = 0 then directive
    else if x = '-' && c.column = 0 && c.isSeparator then documentMark .documentStart
    else if x = '.' && c.column = 0 && c.isSeparator then documentMark .documentEnd
    else if x = '[' then flowStart .flowSequenceStart
    else if x = '\x7b' then flowStart .flowMappingStart
    else if x = ']' then flowEnd .flowSequenceEnd
    else if x = '\x7d' then flowEnd .flowMappingEnd
    else if x = ',' then flowEntry
    else if x = '-' && gapNext then blockEntry
    else if x = '?' && (s.inFlow || gapNext) then key
    else if x = ':' && (s.inFlow || gapNext) then value
    else if x = '*' then keyLexeme Lexeme.anchorName .alias
    else if x = '&' then keyLexeme Lexeme.anchorName .anchor
    else if x = '!' then keyLexeme Lexeme.tag fun t => .tag t.1 t.2
    else if x = '|' && !s.inFlow then blockScalar false
    else if x = '>' && !s.inFlow then blockScalar true
    else if x = '\'' then
      keyLexeme (Lexeme.quotedScalar false) fun t => .scalar (String.ofList t) false
    else if x = '"' then
      keyLexeme (Lexeme.quotedScalar true) fun t => .scalar (String.ofList t) false
    else if startsPlain c s.inFlow then plainScalar
    else fail (.cannotStart x)

end Step

/-- The tokens of a text, and the complaint that stands after them, if any. -/
structure Supply where
  tokens : List Token
  complaint : Option Refusal

/-- Reads tokens until the text ends or a complaint comes up. -/
def scanFrom : (fuel : Nat) → Scanner → Supply
  | 0, s => ⟨s.tokens.reverse, none⟩
  | fuel + 1, s =>
    match Step.fetch s with
    | .error e => ⟨s.settled, some e⟩
    | .ok (_, after) =>
      match after.tokens with
      | ⟨.streamEnd, _⟩ :: _ => ⟨after.tokens.reverse, none⟩
      | _ =>
        match Step.dropStale after with
        | .error e => ⟨s.settled, some e⟩
        | .ok (_, after) => scanFrom fuel after

/-- The tokens of a text. -/
def scan (s : List Char) : Supply := scanFrom (s.length + 2) (.start s)

end Token

end Treewalk.Yaml
