import Treewalk.Text.Quoted

/-!
# Octets cut into characters

A reader of octets cuts them into *fragments*, each of which stands for characters, mostly for one,
or says why it does not. What becomes of the broken ones is decided afterwards:
`Treewalk.Text.Fragment.read` stops at the first of them, `Treewalk.Text.Fragment.mended` puts
something else in their place.
-/

namespace Treewalk.Text

/-- Octets and the characters that they stand for, or the reason why they stand for none. -/
structure Fragment where
  octets : List UInt8
  content : Except String (List Char)

/-- A broken fragment: the name of the encoding, where the fragment starts, its octets, and the
reason. -/
structure Break where
  codec : String
  position : Nat
  octets : List UInt8
  reason : String

/-- What is said of a broken fragment. -/
def Break.text (b : Break) : String :=
  let whereabouts := match b.octets with
    | [octet] => "byte 0x" ++ String.ofList (hexPadded 2 octet.toNat) ++ " in position " ++
      toString b.position
    | octets => "bytes in position " ++ toString b.position ++ "-" ++
      toString (b.position + octets.length - 1)
  "'" ++ b.codec ++ "' codec can't decode " ++ whereabouts ++ ": " ++ b.reason

/-- The character that takes the place of what cannot be read. -/
def replacement : Char := Char.ofNat 0xFFFD

namespace Fragment

/-- The characters of fragments, with what `mend` says in place of the broken ones. -/
def mended (mend : List UInt8 → List Char) (fs : List Fragment) : List Char :=
  fs.flatMap fun f =>
    match f.content with
    | .ok s => s
    | .error _ => mend f.octets

/-- The characters of fragments from the given position on, or the first broken one. -/
def read (codec : String) : (position : Nat) → List Fragment → Except Break (List Char)
  | _, [] => .ok []
  | position, f :: rest =>
    match f.content with
    | .ok s => (read codec (position + f.octets.length) rest).map (s ++ ·)
    | .error reason => .error ⟨codec, position, f.octets, reason⟩

end Fragment

end Treewalk.Text
