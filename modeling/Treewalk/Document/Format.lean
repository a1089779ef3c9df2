import Treewalk.Document.Json.Reader
import Treewalk.Document.Json.Writer
import Treewalk.Document.Yaml.Reader
import Treewalk.Document.Yaml.Writer
import Treewalk.Fault
import Treewalk.Text.Utf8

/-!
# Texts and documents

A program document is written in JSON or in YAML. `Treewalk.Format.detect` chooses the format of a
text by the file's name, and by how the text begins where the name says nothing;
`Treewalk.Document.read` and `Treewalk.Document.write` go from texts to documents and back.
-/

namespace Treewalk

/-- The formats of program documents. -/
inductive Format where
  | json
  | yaml
  deriving DecidableEq, Repr

namespace Format

/-- The name of a format. -/
def name : Format → String
  | .json => "json"
  | .yaml => "yaml"

/-- The format with a name, in any letter case. -/
def ofName? (s : String) : Option Format :=
  let lower := String.ofList (Text.toLower s.toList)
  if lower = "json" then some .json else if lower = "yaml" then some .yaml else none

/-- Whether a text ends in one of the given endings. -/
def endsIn (endings : List String) (s : List Char) : Bool :=
  endings.any fun e => e.toList.isSuffixOf s

/-- The format of a document: by its file's name, else by its first character that is not blank. -/
def detect (hint fileName : Option String) : Format :=
  let file := Text.toLower (fileName.getD "").toList
  if endsIn [".json"] file then .json
  else if endsIn [".yaml", ".yml"] file then .yaml
  else
    match Text.stripLeft Text.isBlank (hint.getD "").toList with
    | '\x7b' :: _ | '[' :: _ => .json
    | _ => .yaml

end Format

/-- The text of a program document, or its bytes. -/
inductive Source where
  | text (s : String)
  | octets (bs : List UInt8)

/-- The text of a source. Bytes are read as UTF-8, and what is not UTF-8 is replaced. -/
def Source.toText : Source → String
  | .text s => s
  | .octets bs => String.ofList (Text.Utf8.decodeReplacing bs)

namespace Document

/-- Quotes the name of a format that there is not. -/
def unsupported (purpose : String) (format : Option String) : Mishap :=
  .value ("Unsupported " ++ purpose ++ " format: " ++ format.elim "None" Text.quote)

/-- Reads a JSON document; a fault names the file and the line. -/
def readJson (file : Option String) (text : String) : Except Fault Document :=
  match Json.read text with
  | .ok d => .ok d
  | .error (.problem p line) =>
    .error (.ofFormat (.json p.text) ⟨file.elim .nil .str, .int line⟩)
  | .error (.tooLong n) => .error (.host (.tooManyDigitsRead n))

/-- What a character says that no YAML text may hold. -/
def unacceptableText (code position : Nat) : String :=
  "unacceptable character #x" ++ String.ofList (Text.hexPadded 4 code) ++
    ": special characters are not allowed\n  in \"<unicode string>\", position " ++
    toString position

/-- Reads a YAML document; a fault names the file and, where there is one, the line. -/
def readYaml (file : Option String) (text : String) : Except Fault Document :=
  match Yaml.read text with
  | .ok d => .ok d
  | .error (.problem p line) =>
    .error (.ofFormat (.yaml p.text) ⟨file.elim .nil .str, .int line⟩)
  | .error (.unacceptable code position) =>
    .error (.ofFormat (.yaml (unacceptableText code position)) ⟨file.elim .nil .str, .nil⟩)
  | .error (.mishap m) => .error (.host m)

/-- Reads a document. Without a format, or with an empty one, the format is detected. -/
def read (format file : Option String) (source : Source) : Except Fault Document :=
  let text := source.toText
  let chosen := match format with
    | none | some "" => some (Format.detect (some text) file)
    | some name => Format.ofName? name
  match chosen with
  | some .json => readJson file text
  | some .yaml => readYaml file text
  | none => .error (.host (unsupported "program" format))

/-- Writes a document. -/
def write (format : Option String) (pretty : Bool) (d : Document) : Except Mishap String :=
  match format.bind Format.ofName? with
  | some .json => Json.write pretty d
  | some .yaml => Yaml.write d
  | none => .error (unsupported "serialization" format)

mutual

/-- Equality of documents by value: entries of mappings are compared as a whole, in any order. -/
def same : Document → Document → Bool
  | .literal a, .literal b => a.same b
  | .str a, .str b => a == b
  | .date _ a, .date _ b => a == b
  | .moment _ a, .moment _ b => a == b
  | .list _ as, .list _ bs => sameItems as bs
  | .mapping _ as, .mapping _ bs => as.length == bs.length && sameEntries as bs
  | .back a _, .back b _ => a == b
  | _, _ => false

/-- Equality of lists of documents. -/
def sameItems : List Document → List Document → Bool
  | [], [] => true
  | a :: as, b :: bs => same a b && sameItems as bs
  | _, _ => false

/-- Whether each entry has an equal one among others. -/
def sameEntries : List (Document × Document) → List (Document × Document) → Bool
  | [], _ => true
  | (k, v) :: rest, bs =>
    (match bs.find? fun b => sameKey b.1 k with
      | some b => same v b.2
      | none => false) && sameEntries rest bs

end

end Document

end Treewalk
