import HandlerGen.Text
/-!
# Tokens

The words of a YAML document. The tokens that open and close block
collections stand for a change of indentation, and a `key` token stands
before a key that no indicator announces: both are found where the next
lines are read. All other tokens are indicators, properties or scalars
of the text itself.
-/

namespace HandlerGen

namespace Yaml

/-- A line about the document that is to follow. -/
inductive Directive
  /-- The version of the language, of which only the major number
  counts. -/
  | version (major : Nat)
  /-- An abbreviation for the start of tags. -/
  | handle (name uri : Text)
  /-- A directive that is passed over. -/
  | unknown
deriving DecidableEq, Repr

/-- A word of a document. -/
inductive Token
  | directive (d : Directive)
  | documentStart
  | documentEnd
  | blockSequenceStart
  | blockMappingStart
  | blockEnd
  | flowSequenceStart
  | flowSequenceEnd
  | flowMappingStart
  | flowMappingEnd
  | blockEntry
  | flowEntry
  | key
  | value
  | reference (name : Text)
  | anchor (name : Text)
  | tag (handle : Option Text) (suffix : Text)
  | scalar (text : Text) (plain : Bool)
  | streamEnd
deriving DecidableEq, Repr

end Yaml

end HandlerGen
