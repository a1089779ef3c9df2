import Treewalk.Mishap

/-!
# What can be wrong with a YAML text

Every complaint about a text, with its wording, and the ways in which reading a text ends without
a document.
-/

namespace Treewalk.Yaml

/-- The three sorts of YAML nodes. -/
inductive NodeSort where
  | scalar
  | sequence
  | mapping
  deriving DecidableEq, Repr

/-- The name of a sort in messages. -/
def NodeSort.title : NodeSort → String
  | .scalar => "scalar"
  | .sequence => "sequence"
  | .mapping => "mapping"

/-- A complaint about a text. A character that was met instead of the wanted one is given; at the
end of the text it is the null character. -/
inductive Problem where
  | cannotStart (c : Char)
  | missingColon
  | entryNotAllowed
  | keyNotAllowed
  | valueNotAllowed
  | wantedWord (c : Char)
  | wantedDigit (c : Char)
  | wantedDigitOrPoint (c : Char)
  | wantedDigitOrSpace (c : Char)
  | wantedSpace (c : Char)
  | wantedLineEnd (c : Char)
  | wantedMark (c : Char)
  | wantedAngle (c : Char)
  | wantedUri (c : Char)
  | uriEscape (c : Char)
  | uriEncoding (text : String)
  | zeroIndentation
  | wantedIndicators (c : Char)
  | escapeDigits (count : Nat) (c : Char)
  | unknownEscape (c : Char)
  | endOfStream
  | documentSeparator
  | wantedDocumentStart (token : String)
  | duplicateVersion
  | incompatibleVersion
  | duplicateHandle (handle : String)
  | undefinedHandle (handle : String)
  | wantedContent (token : String)
  | wantedBlockEnd (token : String)
  | wantedSequenceSeparator (token : String)
  | wantedMappingSeparator (token : String)
  | undefinedAlias (name : String)
  | duplicateAnchor
  | anotherDocument
  | unknownTag (tag : String)
  | unhashableKey
  | wantedSort (wanted found : NodeSort)
  | wantedMerge (found : NodeSort)
  | wantedMergeItem (found : NodeSort)

namespace Problem

/-- A character in quotes. -/
def char (c : Char) : String := Text.quote (String.singleton c)

/-- What a problem says. -/
def text : Problem → String
  | .cannotStart c => "found character " ++ char c ++ " that cannot start any token"
  | .missingColon => "could not find expected ':'"
  | .entryNotAllowed => "sequence entries are not allowed here"
  | .keyNotAllowed => "mapping keys are not allowed here"
  | .valueNotAllowed => "mapping values are not allowed here"
  | .wantedWord c => "expected alphabetic or numeric character, but found " ++ char c
  | .wantedDigit c => "expected a digit, but found " ++ char c
  | .wantedDigitOrPoint c => "expected a digit or '.', but found " ++ char c
  | .wantedDigitOrSpace c => "expected a digit or ' ', but found " ++ char c
  | .wantedSpace c => "expected ' ', but found " ++ char c
  | .wantedLineEnd c => "expected a comment or a line break, but found " ++ char c
  | .wantedMark c => "expected '!', but found " ++ char c
  | .wantedAngle c => "expected '>', but found " ++ char c
  | .wantedUri c => "expected URI, but found " ++ char c
  | .uriEscape c => "expected URI escape sequence of 2 hexadecimal numbers, but found " ++ char c
  | .uriEncoding t => t
  | .zeroIndentation => "expected indentation indicator in the range 1-9, but found 0"
  | .wantedIndicators c => "expected chomping or indentation indicators, but found " ++ char c
  | .escapeDigits n c =>
    "expected escape sequence of " ++ toString n ++ " hexadecimal numbers, but found " ++ char c
  | .unknownEscape c => "found unknown escape character " ++ char c
  | .endOfStream => "found unexpected end of stream"
  | .documentSeparator => "found unexpected document separator"
  | .wantedDocumentStart t => "expected '<document start>', but found " ++ Text.quote t
  | .duplicateVersion => "found duplicate YAML directive"
  | .incompatibleVersion => "found incompatible YAML document (version 1.* is required)"
  | .duplicateHandle h => "duplicate tag handle " ++ Text.quote h
  | .undefinedHandle h => "found undefined tag handle " ++ Text.quote h
  | .wantedContent t => "expected the node content, but found " ++ Text.quote t
  | .wantedBlockEnd t => "expected <block end>, but found " ++ Text.quote t
  | .wantedSequenceSeparator t => "expected ',' or ']', but got " ++ Text.quote t
  | .wantedMappingSeparator t => "expected ',' or '\x7d', but got " ++ Text.quote t
  | .undefinedAlias name => "found undefined alias " ++ Text.quote name
  | .duplicateAnchor => "second occurrence"
  | .anotherDocument => "but found another document"
  | .unknownTag tag => "could not determine a constructor for the tag " ++ Text.quote tag
  | .unhashableKey => "found unhashable key"
  | .wantedSort w f => "expected a " ++ w.title ++ " node, but found " ++ f.title
  | .wantedMerge f =>
    "expected a mapping or list of mappings for merging, but found " ++ f.title
  | .wantedMergeItem f => "expected a mapping for merging, but found " ++ f.title

end Problem

/-- Why a text was not read: a complaint about a line (counted from one), a character that no text
may hold, or a failure of a scalar's own reader. -/
inductive Refusal where
  | problem (problem : Problem) (line : Nat)
  | unacceptable (code position : Nat)
  | mishap (m : Mishap)

end Treewalk.Yaml
