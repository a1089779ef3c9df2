import Treewalk.Mishap
import Treewalk.Text.Search
import Treewalk.Text.Utf8

/-!
# Files by path

A folder of files, and how the text of a file is read: as UTF-8, with every kind of line end read as
a line feed.
-/

namespace Treewalk

/-- The names along a path, between its slashes. -/
def pathSteps (path : String) : List String :=
  (Text.splitOn ['/'] (-1) path.toList).map String.ofList

/-- The names along a path; empty ones and those for the folder itself are left out. -/
def pathNames (path : String) : List String :=
  (pathSteps path).filter fun s => s ≠ "" ∧ s ≠ "."

/-- A path without superfluous names. -/
def normalPath (path : String) : String :=
  let names := "/".intercalate (pathNames path)
  if path.startsWith "/" then "/" ++ names else if names.isEmpty then "." else names

/-- The files of a folder, by path. -/
structure Folder where
  files : List (String × List UInt8)

/-- Where a path leads to: a folder below the one it starts from, or some folder outside of that. -/
inductive Folder.Location where
  | inside (names : List String)
  | outside

namespace Folder

/-- The longest name of a file, in octets. -/
def maxName : Nat := 255

/-- The longest path, in octets. -/
def maxPath : Nat := 4095

/-- Goes to the folder around one. -/
def Location.parent : Location → Location
  | .inside [] | .outside => .outside
  | .inside names => .inside names.dropLast

/-- The file with the given names. -/
def file? (f : Folder) (names : List String) : Option (List UInt8) :=
  (f.files.find? fun file => pathNames file.1 == names).map (·.2)

/-- Whether there is a folder with the given names. -/
def hasFolder (f : Folder) (names : List String) : Bool :=
  f.files.any fun file => names.isPrefixOf (pathNames file.1)

/-- Follows the steps of a path from a folder to a file. Nothing is known of what lies outside. -/
def follow (f : Folder) (path : String) : Location → List String → Except Mishap (List UInt8)
  | _, [] => .error (.isDirectory path)
  | location, step :: rest =>
    if step = "" || step = "." then follow f path location rest
    else if step = ".." then follow f path location.parent rest
    else if maxName < step.utf8ByteSize then .error (.nameTooLong path)
    else
      match location with
      | .outside => .error (.missingFile path)
      | .inside names =>
        match f.file? (names ++ [step]) with
        | some octets => if rest.isEmpty then .ok octets else .error (.notDirectory path)
        | none =>
          if f.hasFolder (names ++ [step]) then follow f path (.inside (names ++ [step])) rest
          else .error (.missingFile path)

/-- The octets of the file at a path. -/
def read (f : Folder) (path : String) : Except Mishap (List UInt8) :=
  if path.contains '\x00' then .error .nullInPath
  else if path.isEmpty then .error (.missingFile path)
  else if maxPath < path.utf8ByteSize then .error (.nameTooLong path)
  else follow f path (if path.startsWith "/" then .outside else .inside []) (pathSteps path)

end Folder

/-- Every kind of line end as a line feed. -/
def plainLineEnds : List Char → List Char
  | [] => []
  | '\r' :: '\n' :: rest => '\n' :: plainLineEnds rest
  | '\r' :: rest => '\n' :: plainLineEnds rest
  | c :: rest => c :: plainLineEnds rest

/-- The text of a file. -/
def fileText (octets : List UInt8) : Except Mishap String :=
  match Text.Utf8.decode? octets with
  | .ok s => .ok (String.ofList (plainLineEnds s))
  | .error b => .error (.decoding b.text)

end Treewalk
