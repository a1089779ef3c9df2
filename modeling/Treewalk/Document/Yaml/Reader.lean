import Treewalk.Document.Yaml.Graph

/-!
# YAML texts as documents

`Treewalk.Yaml.read` reads a text that holds at most one YAML document, through tokens, events and
the graph of nodes. Parts that the text shares by anchors and aliases carry one label.
-/

namespace Treewalk.Yaml

/-- Whether a text may hold a character. -/
def isAcceptable (c : Char) : Bool :=
  let n := c.toNat
  n = 0x09 || n = 0x0A || n = 0x0D || (0x20 ≤ n && n ≤ 0x7E) || n = 0x85 ||
    (0xA0 ≤ n && n ≤ 0xD7FF) || (0xE000 ≤ n && n ≤ 0xFFFD) || 0x10000 ≤ n

/-- Reads a YAML text. An empty text is nil. -/
def read (text : String) : Except Refusal Document :=
  let s := text.toList
  match s.findIdx? fun c => !isAcceptable c with
  | some i => .error (.unacceptable (s.getD i endMark).toNat i)
  | none => do
    let (g, root) ← Graph.ofEvents (Event.parse (Token.scan s))
    match root with
    | none => return .nil
    | some n => g.toDocument n

end Treewalk.Yaml
