import HandlerGen.Text
/-!
# Identifiers and snake-case names

The two grammars that names are checked against. An identifier starts
with a letter, an underscore or a dollar sign and goes on with these and
digits. A snake-case name is a chain of words joined by single
underscores, each a small letter followed by small letters and digits.

A check reads a text up to its end or up to the line feed that ends it
(`readsAsIdentifier`, `readsAsSnakeCase`), so a text that is in the
grammar is accepted also with one line feed after it.
-/

namespace HandlerGen

namespace Text

/-- A character that an identifier may start with. -/
def isIdentifierStart (c : Char) : Bool :=
  ('a' ≤ c && c ≤ 'z') || ('A' ≤ c && c ≤ 'Z') || c == '_' || c == '$'

/-- A character that an identifier may go on with. -/
def isIdentifierPart (c : Char) : Bool := isIdentifierStart c || ('0' ≤ c && c ≤ '9')

/-- The grammar of identifiers. -/
def isIdentifier : Text → Bool
  | [] => false
  | c :: t => isIdentifierStart c && t.all isIdentifierPart

/-- A small letter followed by small letters and digits. -/
def isSnakeWord : Text → Bool
  | [] => false
  | c :: t => ('a' ≤ c && c ≤ 'z') && t.all fun d => ('a' ≤ d && d ≤ 'z') || ('0' ≤ d && d ≤ '9')

/-- The grammar of snake-case names. -/
def isSnakeCase (t : Text) : Bool := (t.splitOn '_').all isSnakeWord

/-- A text less the one line feed that may end it. -/
def dropFinalBreak : Text → Text
  | [] => []
  | ['\n'] => []
  | c :: t => c :: dropFinalBreak t

/-- An identifier, with or without a line feed after it. -/
def readsAsIdentifier (t : Text) : Bool := isIdentifier (dropFinalBreak t)

/-- A snake-case name, with or without a line feed after it. -/
def readsAsSnakeCase (t : Text) : Bool := isSnakeCase (dropFinalBreak t)

end Text

end HandlerGen
