import Treewalk.Decimal.Reader
import Treewalk.Document.Date
import Treewalk.Text.Quoted

/-!
# Documents

A document is what a program is written in before it is checked: scalars, lists and mappings,
nested to any finite depth. `Treewalk.Literal` collects the scalars that a literal node may carry;
texts and timestamps are documents of their own.

A list, a mapping or a timestamp may carry a *label*. Two parts with one label are one object that
the document holds in two places, and `Treewalk.Document.back` is a part that leads back to an
object that encloses it. `Treewalk.Document.numbered` gives each part of a document a label of its
own.

A double that is not a number is equal to itself only if it is the same object. Such a literal has a
*mark*, and two of them are one object when they have one mark.
-/

namespace Treewalk

/-- The scalars of a literal node. -/
inductive Literal where
  | nil
  | bool (b : Bool)
  | int (n : Int)
  | float (x : Float) (mark : Nat)

/-- A program document. -/
inductive Document where
  | literal (value : Literal)
  | str (text : String)
  | date (label : Option Nat) (day : Date)
  | moment (label : Option Nat) (time : Moment)
  | list (label : Option Nat) (items : List Document)
  | mapping (label : Option Nat) (entries : List (Document × Document))
  | back (label : Nat) (isList : Bool)

namespace Literal

/-- A literal as it appears inside a larger value. -/
def shown : Literal → String
  | .nil => "None"
  | .bool true => "True"
  | .bool false => "False"
  | .int n => toString n
  | .float x _ => Decimal.render x

/-- Whether a literal counts as true. -/
def truthy : Literal → Bool
  | .nil => false
  | .bool b => b
  | .int n => n != 0
  | .float x _ => x != 0

/-- Equality of literals by value: the two truth values are the numbers one and zero. What is not a
number is equal to what has the same mark. -/
def same : Literal → Literal → Bool
  | .nil, .nil => true
  | .nil, _ | _, .nil => false
  | .float x m, .float y n => x == y || (x.isNaN && y.isNaN && m == n)
  | .float x _, .int n | .int n, .float x _ => exactly n x
  | .float x _, .bool b | .bool b, .float x _ => exactly (if b then 1 else 0) x
  | .int m, .int n => m == n
  | .bool b, .int n | .int n, .bool b => n == (if b then 1 else 0)
  | .bool b, .bool c => b == c
where
  exactly (n : Int) (x : Float) : Bool :=
    match Decimal.shape x with
    | .finite b => Decimal.compareInt n b == .eq
    | _ => false

end Literal

namespace Document

def nil : Document := .literal .nil

def int (n : Int) : Document := .literal (.int n)

def bool (b : Bool) : Document := .literal (.bool b)

/-- A number with a fraction. -/
def number (x : Float) : Document := .literal (.float x 0)

/-- Whether a document counts as true: an empty text, list or mapping does not. -/
def truthy : Document → Bool
  | .literal l => l.truthy
  | .str s => s != ""
  | .date _ _ | .moment _ _ | .back _ _ => true
  | .list _ items => !items.isEmpty
  | .mapping _ entries => !entries.isEmpty

/-- Whether the document is the nil literal. -/
def isNil : Document → Bool
  | .literal .nil => true
  | _ => false

/-- Equality of two mapping keys. Only scalars and timestamps are keys. -/
def sameKey : Document → Document → Bool
  | .literal a, .literal b => a.same b
  | .str a, .str b => a == b
  | .date _ a, .date _ b => a == b
  | .moment _ a, .moment _ b => a == b
  | _, _ => false

/-- The entry of a mapping under a text key. -/
def find? (key : String) : List (Document × Document) → Option Document
  | [] => none
  | (k, v) :: rest => if sameKey k (.str key) then some v else find? key rest

/-- Puts an entry into a mapping: a key that is there keeps its place and takes the new value. -/
def put (key value : Document) : List (Document × Document) → List (Document × Document)
  | [] => [(key, value)]
  | (k, v) :: rest => if sameKey k key then (k, value) :: rest else (k, v) :: put key value rest

/-- Whether a labelled part is being shown already, so that showing it again would not end. -/
def isOpen (label : Option Nat) (path : List Nat) : Bool :=
  label.elim false path.contains

/-- The labels being shown, inside a part with the given label. -/
def inside (label : Option Nat) (path : List Nat) : List Nat :=
  label.elim path (· :: path)

mutual

/-- A document as a text that shows its structure. -/
def shownIn (path : List Nat) : Document → String
  | .literal l => l.shown
  | .str s => Text.quote s
  | .date _ d => d.shown
  | .moment _ t => t.shown
  | .list label items =>
    if isOpen label path then "[...]"
    else "[" ++ ", ".intercalate (shownItems (inside label path) items) ++ "]"
  | .mapping label entries =>
    if isOpen label path then "\x7b...\x7d"
    else "\x7b" ++ ", ".intercalate (shownEntries (inside label path) entries) ++ "\x7d"
  | .back _ isList => if isList then "[...]" else "\x7b...\x7d"

/-- The items of a list, each shown. -/
def shownItems (path : List Nat) : List Document → List String
  | [] => []
  | d :: rest => shownIn path d :: shownItems path rest

/-- The entries of a mapping, each shown. -/
def shownEntries (path : List Nat) : List (Document × Document) → List String
  | [] => []
  | (k, v) :: rest => (shownIn path k ++ ": " ++ shownIn path v) :: shownEntries path rest

end

mutual

/-- Whether a document holds an integer with too many digits to be written. -/
def hasHugeInt : Document → Bool
  | .literal (.int n) => Decimal.isTooLong n
  | .list _ items => anyHuge items
  | .mapping _ entries => anyHugeEntry entries
  | _ => false

/-- Whether one of several documents holds such an integer. -/
def anyHuge : List Document → Bool
  | [] => false
  | d :: rest => hasHugeInt d || anyHuge rest

/-- Whether one of several entries holds such an integer. -/
def anyHugeEntry : List (Document × Document) → Bool
  | [] => false
  | (k, v) :: rest => hasHugeInt k || hasHugeInt v || anyHugeEntry rest

end

mutual

/-- Gives every list and mapping of a document a new label, from the given one on. -/
def numberFrom : Document → StateM Nat Document
  | .list _ items => do
    let label ← fresh
    return .list (some label) (← numberItems items)
  | .mapping _ entries => do
    let label ← fresh
    return .mapping (some label) (← numberEntries entries)
  | d => return d
where
  fresh : StateM Nat Nat := modifyGet fun n => (n, n + 1)

/-- Gives the items of a list new labels. -/
def numberItems : List Document → StateM Nat (List Document)
  | [] => return []
  | d :: rest => do return (← numberFrom d) :: (← numberItems rest)

/-- Gives the values of a mapping new labels. -/
def numberEntries : List (Document × Document) → StateM Nat (List (Document × Document))
  | [] => return []
  | (k, v) :: rest => do return (k, ← numberFrom v) :: (← numberEntries rest)

end

/-- A document in which no two lists or mappings are one object. -/
def numbered (d : Document) : Document := (numberFrom d 0).1

/-- A document as a text that shows its structure: texts are quoted. -/
def shown (d : Document) : String := shownIn [] d

/-- A document as it is put into a sentence: a text stands for itself. -/
def display : Document → String
  | .str s => s
  | .date _ d => d.iso
  | .moment _ t => t.iso " "
  | d => d.shown

end Document

end Treewalk
