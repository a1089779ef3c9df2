import Treewalk.Text.Quoted

/-!
# Failures of the surroundings

A *mishap* is a failure that does not come from the evaluator: a routine or a value of the host
refused what it was asked. The evaluator passes it on unchanged, and a report names its kind
and its message.
-/

namespace Treewalk

namespace Mishap

/-- What went wrong, in broad terms. -/
inductive Kind where
  | type
  | value
  | key
  | index
  | attribute
  | zeroDivision
  | overflow
  | condition
  | unimplemented
  | decoding
  | encoding
  | lookup
  | unwritableKey
  | missingFile
  | directory
  | notDirectory
  | system
  deriving DecidableEq, Repr

/-- The name of a kind in reports. -/
def Kind.title : Kind → String
  | .type => "TypeError"
  | .value => "ValueError"
  | .key | .unwritableKey => "KeyError"
  | .index => "IndexError"
  | .attribute => "AttributeError"
  | .zeroDivision => "ZeroDivisionError"
  | .overflow => "OverflowError"
  | .condition => "RuntimeError"
  | .unimplemented => "NotImplementedError"
  | .decoding => "UnicodeDecodeError"
  | .encoding => "UnicodeEncodeError"
  | .lookup => "LookupError"
  | .missingFile => "FileNotFoundError"
  | .directory => "IsADirectoryError"
  | .notDirectory => "NotADirectoryError"
  | .system => "OSError"

end Mishap

/-- A failure of the surroundings. -/
structure Mishap where
  kind : Mishap.Kind
  message : String
  deriving DecidableEq, Repr

namespace Mishap

/-- The kind and the message in one line. -/
def text (m : Mishap) : String := m.kind.title ++ ": " ++ m.message

/-- A value of the wrong type. -/
def type (message : String) : Mishap := ⟨.type, message⟩

/-- A value that is out of bounds for what was asked. -/
def value (message : String) : Mishap := ⟨.value, message⟩

/-- A position outside a sequence. -/
def index (message : String) : Mishap := ⟨.index, message⟩

/-- A number too large for what was asked. -/
def overflow (message : String) : Mishap := ⟨.overflow, message⟩

/-- A division by zero. -/
def zeroDivision (message : String) : Mishap := ⟨.zeroDivision, message⟩

/-- A text key that is not there. -/
def missingKey (name : String) : Mishap := ⟨.key, Text.quote name⟩

/-- A key that is not there and has too many digits to be written. -/
def unwritableKey : Mishap := ⟨.unwritableKey, ""⟩

/-- Whether what a mishap says can be written. -/
def isWritable (m : Mishap) : Bool := m.kind != .unwritableKey

/-- A capability that a value of the given type does not have. -/
def noCapability (typeName name : String) : Mishap :=
  ⟨.attribute, typeName ++ " has no capability " ++ Text.quote name⟩

/-- A property that a value of the given type does not have. -/
def noProperty (typeName name : String) : Mishap :=
  ⟨.attribute, "'" ++ typeName ++ "' object has no attribute '" ++ name ++ "'"⟩

/-- A property that a class of the given name does not have. -/
def noClassProperty (name property : String) : Mishap :=
  ⟨.attribute, "type object '" ++ name ++ "' has no attribute '" ++ property ++ "'"⟩

/-- A file that is not there. -/
def missingFile (path : String) : Mishap :=
  ⟨.missingFile, "[Errno 2] No such file or directory: " ++ Text.quote path⟩

/-- A directory where a file is wanted. -/
def isDirectory (path : String) : Mishap :=
  ⟨.directory, "[Errno 21] Is a directory: " ++ Text.quote path⟩

/-- A file where a directory is wanted. -/
def notDirectory (path : String) : Mishap :=
  ⟨.notDirectory, "[Errno 20] Not a directory: " ++ Text.quote path⟩

/-- A path with a name that no file can have. -/
def nameTooLong (path : String) : Mishap :=
  ⟨.system, "[Errno 36] File name too long: " ++ Text.quote path⟩

/-- A path with a null character. -/
def nullInPath : Mishap := value "embedded null byte"

/-- Whether a mishap is that a file cannot be read, or is no text. -/
def isUnreadable (m : Mishap) : Bool :=
  m.kind ∈ [.missingFile, .directory, .notDirectory, .system, .decoding]

/-- Octets of a file or a value that are no text. -/
def decoding (message : String) : Mishap := ⟨.decoding, message⟩

/-- A text that a set of characters has no room for. -/
def encoding (message : String) : Mishap := ⟨.encoding, message⟩

/-- A name that is not known. -/
def unknownName (message : String) : Mishap := ⟨.lookup, message⟩

/-- An operation that was left out. -/
def unimplemented : Mishap := ⟨.unimplemented, ""⟩

/-- An integer with too many digits to be written. -/
def tooManyDigits : Mishap :=
  value ("Exceeds the limit (4300 digits) for integer string conversion; " ++
    "use sys.set_int_max_str_digits() to increase the limit")

/-- A text of so many digits that it is not read as an integer. -/
def tooManyDigitsRead (digits : Nat) : Mishap :=
  value (s!"Exceeds the limit (4300 digits) for integer string conversion: value has {digits} " ++
    "digits; use sys.set_int_max_str_digits() to increase the limit")

end Mishap

end Treewalk
