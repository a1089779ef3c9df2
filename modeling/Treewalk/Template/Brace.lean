import Treewalk.Template.Attribute

/-!
# Templates with braces

A template is a text with replacement fields in braces; doubled braces stand for themselves. A field
names an argument by its number, or takes the next one if it names none; it may then go into items
and attributes, ask for a conversion, and give a specification, which may hold fields in turn. What
a field comes upon need not be a value (`Treewalk.Template.Referent`).
-/

namespace Treewalk

namespace Template

/-- How fields are numbered: not yet decided, one after another, or by hand. -/
inductive Numbering where
  | undecided
  | automatic (next : Nat)
  | manual

/-- A replacement field: what it names, a conversion, a specification, and whether the
specification holds fields. -/
structure Field where
  name : List Char
  conversion : Option Char
  spec : List Char
  nested : Bool

/-- Takes the name of a field and the character that ends it. Between square brackets nothing ends a
name but their close. -/
def takeName : (inItem : Bool) → List Char → Except Mishap (List Char × Option Char × List Char)
  | _, [] => .ok ([], none, [])
  | true, c :: rest => do
    let (name, stop, rest) ← takeName (c != ']') rest
    return (c :: name, stop, rest)
  | false, c :: rest =>
    if c = '\x7b' then .error (.value "unexpected '\x7b' in field name")
    else if c = '\x7d' || c = ':' || c = '!' then .ok ([], some c, rest)
    else do
      let (name, stop, rest) ← takeName (c = '[') rest
      return (c :: name, stop, rest)

/-- Takes a specification up to the brace that closes its field. -/
def takeSpec : (depth : Nat) → List Char → Except Mishap (List Char × Bool × List Char)
  | _, [] => .error (.value "unmatched '\x7b' in format spec")
  | depth, c :: rest =>
    if c = '\x7d' && depth = 0 then .ok ([], false, rest)
    else do
      let deeper := if c = '\x7b' then depth + 1 else if c = '\x7d' then depth - 1 else depth
      let (spec, nested, rest) ← takeSpec deeper rest
      return (c :: spec, nested || c = '\x7b', rest)

/-- Takes a field after its opening brace. -/
def takeField (s : List Char) : Except Mishap (Field × List Char) := do
  let (name, stop, rest) ← takeName false s
  match stop with
  | some '\x7d' => return (⟨name, none, [], false⟩, rest)
  | some ':' =>
    let (spec, nested, rest) ← takeSpec 0 rest
    return (⟨name, none, spec, nested⟩, rest)
  | some _ =>
    match rest with
    | [] => throw (.value "end of string while looking for conversion specifier")
    | [_] => throw (.value "unmatched '\x7b' in format spec")
    | c :: '\x7d' :: rest => return (⟨name, some c, [], false⟩, rest)
    | c :: ':' :: rest =>
      let (spec, nested, rest) ← takeSpec 0 rest
      return (⟨name, some c, spec, nested⟩, rest)
    | _ => throw (.value "expected ':' after conversion specifier")
  | none => throw (.value "expected '\x7d' before end of string")

/-- The number that a text of digits is. Too large a number is noticed before what is no digit. -/
def indexFrom (n : Nat) : List Char → Except Mishap (Option Nat)
  | [] => .ok (some n)
  | c :: rest =>
    match Text.decimal? c with
    | none => .ok none
    | some d =>
      if Sequence.maxIndex < n * 10 + d then .error tooManyDecimals
      else indexFrom (n * 10 + d) rest

/-- The number that a text is, if it is one. -/
def indexOf? (s : List Char) : Except Mishap (Option Nat) :=
  if s.isEmpty then .ok none else indexFrom 0 s

/-- A step that names nothing. -/
def emptyName : Mishap := .value "Empty attribute in format string"

/-- A step from one thing to the next. -/
inductive Step where
  | property (name : String)
  | item (key : Value)

/-- Takes a step off the rest of a field's name. A key that is a number is one. -/
def takeStep : List Char → Except Mishap (Step × List Char)
  | '.' :: rest =>
    let name := rest.takeWhile fun c => c != '.' && c != '['
    if name.isEmpty then .error emptyName
    else .ok (.property (String.ofList name), rest.drop name.length)
  | '[' :: rest => do
    let name := rest.takeWhile (· != ']')
    match rest.drop name.length with
    | [] => throw (.value "Missing ']' in format string")
    | _ :: after =>
      let index ← indexOf? name
      if name.isEmpty then throw emptyName
      return (.item (index.elim (.chars name) fun n => .int n), after)
  | _ => .error (.value "Only '.' or '[' may follow ']' in format field specifier")

/-- Goes one step. -/
def Step.go (r : Referent) : Step → Act Referent
  | .property name => attributeOf r name
  | .item key => Act.read fun w => itemOf w key r

/-- Goes from one thing to the next as the rest of a field's name says. -/
def follow : (fuel : Nat) → Referent → List Char → Act Referent
  | 0, r, _ | _, r, [] => return r
  | fuel + 1, r, name => do
    let (step, rest) ← Act.lift (takeStep name)
    let r ← step.go r
    follow fuel r rest

/-- Which argument a field names, and how fields are numbered from then on. -/
def argumentOf (args : List Value) (name : List Char) (numbering : Numbering) :
    Except Mishap (Value × Numbering) := do
  let index ← indexOf? name
  if name.isEmpty then
    match numbering with
    | .manual => throw (.value ("cannot switch from manual field specification to " ++
        "automatic field numbering"))
    | .undecided => return (← positional 0, .automatic 1)
    | .automatic n => return (← positional n, .automatic (n + 1))
  else
    match index, numbering with
    | none, _ => throw (.missingKey (String.ofList name))
    | some _, .automatic _ => throw (.value ("cannot switch from automatic field numbering to " ++
        "manual field specification"))
    | some n, _ => return (← positional n, .manual)
where
  positional (n : Nat) : Except Mishap Value :=
    match args[n]? with
    | some v => .ok v
    | none => .error (.index ("Replacement index " ++ toString n ++
        " out of range for positional args tuple"))

/-- What a field came upon, after a conversion. -/
def converted (w : World) (r : Referent) : Option Char → Except Mishap Referent
  | none => .ok r
  | some 'r' => do return .value (.text (← r.shown w))
  | some 's' => do return .value (.text (← r.display w))
  | some 'a' => do return .value (.text (Text.escapeWide (← r.shown w)))
  | some c =>
    if 32 < c.toNat && c.toNat < 127 then
      .error (.value ("Unknown conversion specifier " ++ String.singleton c))
    else .error (.value ("Unknown conversion specifier \\x" ++
      String.ofList (Nat.toDigits 16 c.toNat)))

/-- Writes what a field came upon to a specification, which only values can meet. -/
def written (w : World) (r : Referent) (spec : List Char) : Except Mishap (List Char) :=
  match r with
  | .value v => formatted w v spec
  | r =>
    if spec.isEmpty then .ok r.text.toList
    else .error (.type ("unsupported format string passed to " ++ r.typeName w ++ ".__format__"))

/-- A piece of a template: a character that stands for itself, or a field. -/
inductive Piece where
  | plain (c : Char)
  | field (field : Field)

/-- Takes a piece off a template, whose first character is given. -/
def takePiece (c : Char) (rest : List Char) : Except Mishap (Piece × List Char) :=
  match c, rest with
  | '\x7b', '\x7b' :: rest | '\x7d', '\x7d' :: rest => .ok (.plain c, rest)
  | '\x7d', _ => .error (.value "Single '\x7d' encountered in format string")
  | '\x7b', [] => .error (.value "Single '\x7b' encountered in format string")
  | '\x7b', _ => do
    let (field, rest) ← takeField rest
    return (.field field, rest)
  | _, _ => .ok (.plain c, rest)

/-- What a field names, after its conversion, and how fields are numbered from then on. -/
def referentOf (args : List Value) (field : Field) (numbering : Numbering) :
    Act (Referent × Numbering) := do
  let first := field.name.takeWhile fun c => c != '.' && c != '['
  let (arg, numbering) ← Act.lift (argumentOf args first numbering)
  let r ← follow (field.name.length + 1) (.value arg) (field.name.drop first.length)
  let r ← Act.read fun w => converted w r field.conversion
  return (r, numbering)

/-- Fills the fields of a template. Specifications are templates themselves, down to `depth`. -/
def fill (args : List Value) : (fuel depth : Nat) → Numbering → List Char →
    Act (List Char × Numbering)
  | 0, _, numbering, _ => return ([], numbering)
  | _, 0, _, _ => Act.fail (.value "Max string recursion exceeded")
  | _, _, numbering, [] => return ([], numbering)
  | fuel + 1, depth + 1, numbering, c :: rest => do
    let (piece, rest) ← Act.lift (takePiece c rest)
    match piece with
    | .plain c => do
      let (s, numbering) ← fill args fuel (depth + 1) numbering rest
      return (c :: s, numbering)
    | .field field => do
      let (r, numbering) ← referentOf args field numbering
      let (spec, numbering) ← (if field.nested then fill args fuel depth numbering field.spec
        else return (field.spec, numbering))
      let text ← Act.read fun w => written w r spec
      let (s, numbering) ← fill args fuel (depth + 1) numbering rest
      return (text ++ s, numbering)

/-- Fills a template with arguments. A template that is filled with itself, since it has no fields
and no braces, is handed back as it is; otherwise the text is a plain one. -/
def fillBraces (template : Value) (text : String) (args : List Value) : Act Value := do
  let s := text.toList
  let (filled, _) ← fill args (s.length + 1) 2 .undecided s
  if s.isEmpty || s.any fun c => c == '\x7b' || c == '\x7d' then Act.answer (.chars filled)
  else return template

end Template

/-! ### All methods -/

/-- A text as something that can be filled. -/
def formatMethod (template : Value) (text : String) : Capability :=
  .acting none (Template.fillBraces template text)

/-- The method of a value with a name. -/
def World.method? (w : World) (v : Value) (name : String) : Option Capability :=
  match v with
  | .str text _ => if name = "format" then some (formatMethod v text) else w.plainMethod? v name
  | v => w.plainMethod? v name

/-- An operator as a capability of a value. -/
def Operator.capability (op : Operator) (v : Value) : Capability :=
  .reading (takes op.operands) fun w args => op.apply w v args

end Treewalk
