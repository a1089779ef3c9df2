import Treewalk.Decimal.Reader
import Treewalk.Document.Basic
import Treewalk.Mishap

/-!
# Documents as JSON texts

`Treewalk.Json.write` writes a document in one of two layouts: on one line, or with each item on a
line of its own, two blanks further in than what encloses it. Keys that are scalars become texts.
Timestamps have no JSON form, and neither has a document that holds itself.
-/

namespace Treewalk.Json

/-- A character inside a JSON string. -/
def escaped (c : Char) : List Char :=
  if c = '"' then ['\\', '"']
  else if c = '\\' then ['\\', '\\']
  else if c = '\n' then ['\\', 'n']
  else if c = '\r' then ['\\', 'r']
  else if c = '\t' then ['\\', 't']
  else if c = '\x0c' then ['\\', 'f']
  else if c = '\x08' then ['\\', 'b']
  else if c.toNat < 0x20 then '\\' :: 'u' :: Text.hexPadded 4 c.toNat
  else [c]

/-- A text as a JSON string. -/
def stringText (s : String) : List Char := '"' :: (s.toList.flatMap escaped ++ ['"'])

/-- A double as JSON. -/
def floatText (x : Float) : String :=
  match Decimal.shape x with
  | .finite _ => Decimal.render x
  | .infinite negative => if negative then "-Infinity" else "Infinity"
  | .nan => "NaN"

/-- A scalar as JSON. -/
def literalText : Literal → Except Mishap String
  | .nil => .ok "null"
  | .bool b => .ok (if b then "true" else "false")
  | .int n => if Decimal.isTooLong n then .error .tooManyDigits else .ok (toString n)
  | .float x _ => .ok (floatText x)

/-- A mapping's key as a JSON string. -/
def keyText : Document → Except Mishap (List Char)
  | .str s => .ok (stringText s)
  | .literal l => do return stringText (← literalText l)
  | .date _ _ => .error (keyMishap "date")
  | .moment _ _ => .error (keyMishap "datetime")
  | .list _ _ | .back _ true => .error (keyMishap "list")
  | .mapping _ _ | .back _ false => .error (keyMishap "dict")
where
  keyMishap (name : String) : Mishap :=
    .type ("keys must be str, int, float, bool or None, not " ++ name)

/-- A value of a type that JSON does not have. -/
def noForm (name : String) : Mishap := .type ("Object of type " ++ name ++ " is not JSON serializable")

/-- A document that holds itself. -/
def circular : Mishap := .value "Circular reference detected"

/-- What stands between a bracket and an item, at a level of nesting. -/
def gap (pretty : Bool) (level : Nat) : List Char :=
  if pretty then '\n' :: List.replicate (2 * level) ' ' else []

/-- What stands between two items. -/
def separator (pretty : Bool) (level : Nat) : List Char :=
  if pretty then ',' :: gap pretty level else [',', ' ']

mutual

/-- Writes a document at a level of nesting, inside the parts whose labels are given. -/
def writeValue (pretty : Bool) (level : Nat) (path : List Nat) : Document → Except Mishap (List Char)
  | .literal l => do return (← literalText l).toList
  | .str s => .ok (stringText s)
  | .date _ _ => .error (noForm "date")
  | .moment _ _ => .error (noForm "datetime")
  | .back _ _ => .error circular
  | .list label items =>
    if items.isEmpty then .ok ['[', ']']
    else if Document.isOpen label path then .error circular
    else do
      let body ← writeItems pretty (level + 1) (Document.inside label path) items
      return '[' :: (gap pretty (level + 1) ++ body ++ gap pretty level ++ [']'])
  | .mapping label entries =>
    if entries.isEmpty then .ok ['\x7b', '\x7d']
    else if Document.isOpen label path then .error circular
    else do
      let body ← writeEntries pretty (level + 1) (Document.inside label path) entries
      return '\x7b' :: (gap pretty (level + 1) ++ body ++ gap pretty level ++ ['\x7d'])

/-- Writes the items of a list. -/
def writeItems (pretty : Bool) (level : Nat) (path : List Nat) :
    List Document → Except Mishap (List Char)
  | [] => .ok []
  | [d] => writeValue pretty level path d
  | d :: e :: rest => do
    let first ← writeValue pretty level path d
    let others ← writeItems pretty level path (e :: rest)
    return first ++ separator pretty level ++ others

/-- Writes the entries of a mapping. -/
def writeEntries (pretty : Bool) (level : Nat) (path : List Nat) :
    List (Document × Document) → Except Mishap (List Char)
  | [] => .ok []
  | (k, v) :: rest => do
    let key ← keyText k
    let value ← writeValue pretty level path v
    let entry := key ++ [':', ' '] ++ value
    if rest.isEmpty then return entry
    else return entry ++ separator pretty level ++ (← writeEntries pretty level path rest)

end

/-- Writes a document as a JSON text. -/
def write (pretty : Bool) (d : Document) : Except Mishap String := do
  return String.ofList (← writeValue pretty 0 [] d)

end Treewalk.Json
