import Treewalk.Decimal.Layout
import Treewalk.Decimal.Reader
import Treewalk.Text.Quoted

/-!
# Values as finite trees

A *picture* is what can be seen of a value without going around a cycle: references are followed,
and a list, tuple or dictionary inside itself is marked. All texts of values are texts of pictures:
`Treewalk.Picture.shown` shows the structure, `Treewalk.Picture.display` is the same with a text
standing for itself, and `Treewalk.Picture.printed` is what a program prints for people.

An integer with very many digits has no text; `Treewalk.Picture.hasHugeInt` tells whether a picture
holds one.
-/

namespace Treewalk

/-- The containers that can hold themselves. -/
inductive Holder where
  | list
  | tuple
  | dict
  deriving DecidableEq, Repr

/-- What can be seen of a value. -/
inductive Picture where
  | nil
  | bool (b : Bool)
  | int (n : Int)
  | float (x : Float)
  | str (text : String)
  | bytes (octets : List UInt8)
  | environment (name : String)
  | list (items : List Picture)
  | tuple (items : List Picture)
  | dict (entries : List (Picture × Picture))
  | counter (count : Picture)
  | vector (x : Picture)
  | grumpy
  | cycle (holder : Holder)

namespace Picture

mutual

/-- Whether a picture holds an integer with too many digits to be written. -/
def hasHugeInt : Picture → Bool
  | .int n => Decimal.isTooLong n
  | .list items | .tuple items => anyHuge items
  | .dict entries => anyHugeEntry entries
  | .counter p | .vector p => hasHugeInt p
  | _ => false

/-- Whether one of several pictures holds such an integer. -/
def anyHuge : List Picture → Bool
  | [] => false
  | p :: rest => hasHugeInt p || anyHuge rest

/-- Whether one of several entries holds such an integer. -/
def anyHugeEntry : List (Picture × Picture) → Bool
  | [] => false
  | (k, v) :: rest => hasHugeInt k || hasHugeInt v || anyHugeEntry rest

end

/-- Items between brackets; a tuple of one item keeps a comma. -/
def tupleText : List String → String
  | [s] => "(" ++ s ++ ",)"
  | ss => "(" ++ ", ".intercalate ss ++ ")"

mutual

/-- A picture as a text that shows its structure. -/
def shown : Picture → String
  | .nil => "None"
  | .bool b => if b then "True" else "False"
  | .int n => toString n
  | .float x => Decimal.render x
  | .str s => Text.quote s
  | .bytes bs => Text.quoteOctets bs
  | .environment name => name
  | .list items => "[" ++ ", ".intercalate (shownAll items) ++ "]"
  | .tuple items => tupleText (shownAll items)
  | .dict entries => "\x7b" ++ ", ".intercalate (shownEntries entries) ++ "\x7d"
  | .counter (.str s) => "<Counter " ++ s ++ ">"
  | .counter p => "<Counter " ++ shown p ++ ">"
  | .vector (.str s) => "<Vec " ++ s ++ ">"
  | .vector p => "<Vec " ++ shown p ++ ">"
  | .grumpy => "<Grumpy>"
  | .cycle .list => "[...]"
  | .cycle .tuple => "(...)"
  | .cycle .dict => "\x7b...\x7d"

/-- Several pictures, each shown. -/
def shownAll : List Picture → List String
  | [] => []
  | p :: rest => shown p :: shownAll rest

/-- The entries of a dictionary, each shown. -/
def shownEntries : List (Picture × Picture) → List String
  | [] => []
  | (k, v) :: rest => (shown k ++ ": " ++ shown v) :: shownEntries rest

end

/-- A picture as a text in which a text stands for itself. -/
def display : Picture → String
  | .str s => s
  | p => p.shown

mutual

/-- A picture as it is printed for people. A container inside itself is marked as in a text that
shows the structure; no other end is put to it, so that to print one for people is taken to succeed,
where a printer that goes around the cycle would run out of stack. -/
def printed : Picture → String
  | .nil => "nil"
  | .bool b => if b then "true" else "false"
  | .int n => toString n
  | .float x => Decimal.render x
  | .str s => Text.quoteDouble s
  | .list items | .tuple items => "[" ++ ", ".intercalate (printedAll items) ++ "]"
  | .dict entries => "\x7b" ++ ", ".intercalate (printedEntries entries) ++ "\x7d"
  | p => p.shown

/-- Several pictures, each printed. -/
def printedAll : List Picture → List String
  | [] => []
  | p :: rest => printed p :: printedAll rest

/-- The entries of a dictionary, each printed. -/
def printedEntries : List (Picture × Picture) → List String
  | [] => []
  | (k, v) :: rest => (printed k ++ " => " ++ printed v) :: printedEntries rest

end

end Picture

end Treewalk
