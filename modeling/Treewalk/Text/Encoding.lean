import Treewalk.Mishap
import Treewalk.Text.Escape
import Treewalk.Text.Table.CodePage
import Treewalk.Text.Utf16
import Treewalk.Text.Utf8

/-!
# Sets of characters

Texts as octets in the sets of characters that can be named: the Unicode formats, ASCII, Latin-1,
the code pages and octets with escapes. What a set has no room for is refused, left out or replaced,
as a `Treewalk.Text.Mending` says.
-/

namespace Treewalk.Text

namespace CodePage

/-- The first octet that is not the character with its number. -/
def start (p : CodePage) : Nat := 256 - p.top.length

/-- The character of an octet. -/
def char? (p : CodePage) (b : UInt8) : Option Char :=
  if b.toNat < p.start then some (Char.ofNat b.toNat)
  else (p.top.toList[b.toNat - p.start]?).filter (· != hole)

/-- The octet of a character: where several octets are the same one, the highest of them. -/
def octet? (p : CodePage) (c : Char) : Option UInt8 :=
  if c = hole then none
  else match p.top.toList.reverse.idxOf? c with
    | some i => some (255 - i).toUInt8
    | none => if c.toNat < p.start then some c.toNat.toUInt8 else none

end CodePage

/-- A set of characters and its octets. Without a given order of octets, a mark tells it. -/
inductive Encoding where
  | utf8
  | utf8Marked
  | utf16 (order : Option OctetOrder)
  | utf32 (order : Option OctetOrder)
  | ascii
  | latin1
  | escaped (style : Escape.Style)
  | page (p : CodePage)
  deriving DecidableEq, Repr

namespace Encoding

/-! ### Names -/

/-- The encodings, each with its name and its other names. -/
def named : List (String × List String × Encoding) :=
  [("utf_8", ["cp65001", "u8", "utf", "utf8", "utf8_ucs2", "utf8_ucs4"], .utf8),
   ("utf_8_sig", [], .utf8Marked),
   ("utf_16", ["u16", "utf16"], .utf16 none),
   ("utf_16_le", ["unicodelittleunmarked", "utf_16le"], .utf16 (some .little)),
   ("utf_16_be", ["unicodebigunmarked", "utf_16be"], .utf16 (some .big)),
   ("utf_32", ["u32", "utf32"], .utf32 none),
   ("utf_32_le", ["utf_32le"], .utf32 (some .little)),
   ("utf_32_be", ["utf_32be"], .utf32 (some .big)),
   ("ascii", ["646", "ansi_x3.4_1968", "ansi_x3.4_1986", "ansi_x3_4_1968", "cp367", "csascii",
     "ibm367", "iso646_us", "iso_646.irv_1991", "iso_ir_6", "us", "us_ascii"], .ascii),
   ("latin_1", ["8859", "cp819", "csisolatin1", "ibm819", "iso8859", "iso8859_1", "iso_8859_1",
     "iso_8859_1_1987", "iso_ir_100", "l1", "latin", "latin1"], .latin1),
   ("charmap", [], .latin1),
   ("unicode_escape", [], .escaped .full),
   ("raw_unicode_escape", [], .escaped .raw)] ++
  Table.codePages.map fun p => (p.name, p.aliases, .page p)

/-- The ways of writing octets that are known but do not make texts of them. -/
def notForTexts : List (String × List String) :=
  [("base64_codec", ["base64", "base_64"]), ("bz2_codec", ["bz2"]), ("hex_codec", ["hex"]),
   ("quopri_codec", ["quopri", "quoted_printable", "quotedprintable"]), ("rot_13", ["rot13"]),
   ("uu_codec", ["uu"]), ("zlib_codec", ["zip", "zlib"])]

/-- A name in small letters, with one underscore for each run of other signs inside it. -/
def normalName (name : String) : String :=
  "_".intercalate (((name.toList.splitBy fun a b => isSign a == isSign b).filter
    fun run => !run.any isSign).map fun run => String.ofList (run.map Char.toLower))
where
  isSign (c : Char) : Bool := !(c.isAlphanum || c == '.')

/-- Whether a normal name is that of something with the given name and other names. In other names a
point counts as an underscore. -/
def isNamed (name : String) (main : String) (others : List String) : Bool :=
  name == main || others.contains name || others.contains (name.replace "." "_")

/-- The normal names of encodings that are used directly; all others are found through a registry,
which adds to what goes wrong there. -/
def direct : List String :=
  ["utf8", "utf_8", "utf16", "utf_16", "utf32", "utf_32", "ascii", "us_ascii", "latin1", "latin_1",
   "iso_8859_1", "iso8859_1"]

/-- The encoding with a name. `purpose` is what it is looked up for. -/
def ofName (purpose name : String) : Except Mishap Encoding :=
  let normal := normalName name
  match named.find? fun e => isNamed normal e.1 e.2.1 with
  | some e => .ok e.2.2
  | none =>
    if notForTexts.any fun e => isNamed normal e.1 e.2 then
      .error (.unknownName ("'" ++ name ++ "' is not a text encoding; use codecs." ++ purpose ++
        "() to handle arbitrary codecs"))
    else .error (.unknownName ("unknown encoding: " ++ name))

end Encoding

/-- What is done about a character or an octet that does not belong to a set. -/
inductive Mending where
  | strict
  | ignore
  | replace
  | backslash
  | reference
  | unknown (name : String)
  deriving DecidableEq, Repr

namespace Mending

/-- The way of mending with a name. -/
def ofName : String → Mending
  | "strict" => .strict
  | "surrogateescape" => .strict
  | "surrogatepass" => .strict
  | "ignore" => .ignore
  | "replace" => .replace
  | "backslashreplace" => .backslash
  | "xmlcharrefreplace" => .reference
  | name => .unknown name

/-- A way of mending that is not known. -/
def unknownText (name : String) : Mishap :=
  .unknownName ("unknown error handler name '" ++ name ++ "'")

end Mending

namespace Encoding

/-! ### Writing -/

/-- Why a character or an octet does not belong to a set. -/
def outsideText : Encoding → String
  | .ascii => "ordinal not in range(128)"
  | .latin1 => "ordinal not in range(256)"
  | _ => "character maps to <undefined>"

/-- The name of an encoding where a text or octets are refused. -/
def title : Encoding → String
  | .utf8 | .utf8Marked => Utf8.title
  | .utf16 order => "utf-16" ++ (order.getD .little).suffix
  | .utf32 order => "utf-32" ++ (order.getD .little).suffix
  | .ascii => "ascii"
  | .latin1 => "latin-1"
  | .escaped style => style.title
  | .page _ => "charmap"

/-- The octets of a character, if it belongs to the set. -/
def octets? (c : Char) : Encoding → Option (List UInt8)
  | .utf8 | .utf8Marked => some (Utf8.encodeChar c)
  | .utf16 order => some (Utf16.encodeChar (order.getD .little) c)
  | .utf32 order => some (Utf32.encodeChar (order.getD .little) c)
  | .ascii => if c.toNat < 128 then some [c.toNat.toUInt8] else none
  | .latin1 => if c.toNat < 256 then some [c.toNat.toUInt8] else none
  | .escaped style => some ((style.escape c).map fun c => c.toNat.toUInt8)
  | .page p => (p.octet? c).map fun b => [b]

/-- The octets in front of every text. -/
def mark : Encoding → List UInt8
  | .utf8Marked => Utf8.encodeChar (Char.ofNat orderMark)
  | .utf16 none => OctetOrder.little.octets 2 orderMark
  | .utf32 none => OctetOrder.little.octets 4 orderMark
  | _ => []

/-- What is said of characters outside a set: one is shown, more are only counted. -/
def outside (e : Encoding) (position : Nat) (run : List Char) : Mishap :=
  let whereabouts := match run with
    | [c] => "character '" ++ escapeWide (String.singleton c) ++ "' in position " ++
      toString position
    | _ => "characters in position " ++ toString position ++ "-" ++
      toString (position + run.length - 1)
  .encoding ("'" ++ e.title ++ "' codec can't encode " ++ whereabouts ++ ": " ++ e.outsideText)

/-- The octets of a text. -/
def encode (e : Encoding) (mending : Mending) (s : List Char) : Except Mishap (List UInt8) :=
  let fits (c : Char) : Bool := (e.octets? c).isSome
  let mended (mend : Char → List Char) : List UInt8 :=
    e.mark ++ (s.flatMap fun c => if fits c then [c] else mend c).flatMap fun c =>
      (e.octets? c).getD []
  match s.dropWhile fits with
  | [] => .ok (mended fun _ => [])
  | rest =>
    match mending with
    | .ignore => .ok (mended fun _ => [])
    | .replace => .ok (mended fun _ => ['?'])
    | .backslash => .ok (mended fun c => (escapeWide (String.singleton c)).toList)
    | .reference => .ok (mended fun c => '&' :: '#' :: (toString c.toNat).toList ++ [';'])
    | .unknown name => .error (Mending.unknownText name)
    | .strict => .error (e.outside (s.takeWhile fits).length (rest.takeWhile fun c => !fits c))

/-! ### Reading -/

/-- Octets cut up in an encoding: the encoding they turned out to be in, and the position at which
the first fragment starts. -/
structure Reading where
  encoding : Encoding
  position : Nat
  fragments : List Fragment

/-- Cuts octets into one fragment each. -/
def singly (e : Encoding) (char? : UInt8 → Option Char) (bs : List UInt8) : List Fragment :=
  bs.map fun b => ⟨[b], (char? b).elim (.error e.outsideText) fun c => .ok [c]⟩

/-- Cuts octets into fragments. -/
def reading (e : Encoding) (bs : List UInt8) : Reading :=
  match e with
  | .utf8 => ⟨e, 0, Utf8.fragments bs⟩
  | .utf8Marked => ⟨e, 0, Utf8.fragments (if e.mark.isPrefixOf bs then bs.drop 3 else bs)⟩
  | .utf16 (some order) => ⟨e, 0, Utf16.fragments order bs⟩
  | .utf32 (some order) => ⟨e, 0, Utf32.fragments order bs⟩
  | .utf16 none =>
    match markedOrder? 2 bs with
    | some order => ⟨.utf16 (some order), 2, Utf16.fragments order (bs.drop 2)⟩
    | none => ⟨e, 0, Utf16.fragments .little bs⟩
  | .utf32 none =>
    match markedOrder? 4 bs with
    | some order => ⟨.utf32 (some order), 4, Utf32.fragments order (bs.drop 4)⟩
    | none => ⟨e, 0, Utf32.fragments .little bs⟩
  | .ascii =>
    ⟨e, 0, e.singly (fun b => if b.toNat < 128 then some (Char.ofNat b.toNat) else none) bs⟩
  | .latin1 => ⟨e, 0, e.singly (fun b => some (Char.ofNat b.toNat)) bs⟩
  | .escaped style => ⟨e, 0, style.fragments bs⟩
  | .page p => ⟨e, 0, e.singly p.char? bs⟩

/-- An octet as an escape. -/
def octetEscape (b : UInt8) : List Char := '\\' :: 'x' :: hexPadded 2 b.toNat

/-- The text of octets. A reference to a character cannot be made of octets. -/
def decode (e : Encoding) (mending : Mending) (bs : List UInt8) : Except Mishap (List Char) :=
  let r := e.reading bs
  match Fragment.read r.encoding.title r.position r.fragments with
  | .ok s => .ok s
  | .error b =>
    match mending with
    | .ignore => .ok (Fragment.mended (fun _ => []) r.fragments)
    | .replace => .ok (Fragment.mended (fun _ => [replacement]) r.fragments)
    | .backslash => .ok (Fragment.mended (fun piece => piece.flatMap octetEscape) r.fragments)
    | .reference =>
      .error (.type "don't know how to handle UnicodeDecodeError in error callback")
    | .unknown name => .error (Mending.unknownText name)
    | .strict => .error (.decoding b.text)

/-! ### Encodings by name -/

/-- What is said of a mishap in an encoding with the given name: that a text or octets do not belong
to the set is said as it is. -/
def inRegistry (purpose name : String) (m : Mishap) : Mishap :=
  if direct.contains (normalName name) || m.kind = .encoding || m.kind = .decoding then m
  else { m with message := purpose ++ " with '" ++ name ++ "' codec failed (" ++ m.text ++ ")" }

/-- The octets of a text in the encoding with a name. -/
def encodeAs (name mending : String) (s : List Char) : Except Mishap (List UInt8) := do
  let e ← ofName "encode" name
  (e.encode (.ofName mending) s).mapError (inRegistry "encoding" name)

/-- The text of octets in the encoding with a name. Where there are none, the name does not
matter. -/
def decodeAs (name mending : String) (bs : List UInt8) : Except Mishap (List Char) := do
  if bs.isEmpty then return []
  let e ← ofName "decode" name
  (e.decode (.ofName mending) bs).mapError (inRegistry "decoding" name)

end Encoding

end Treewalk.Text
