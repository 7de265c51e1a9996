/-!
# Faults of a document

Why a YAML document has no value. Most faults are the same to a reader
of handler files: the text is malformed. A scalar whose tag promises
what its text does not keep is told apart, because such a fault is no
fault of the document's form and is not reported as one.

A fault in a text stops the reading of it (`Halt`). How much of the text
has been looked at by then decides whether what is wrong further on is
still met.
-/

namespace HandlerGen

namespace Yaml

/-- Why a document has no value. -/
inductive Fault
  /-- The bytes of the text spell no characters. -/
  | encoding
  /-- The text is no document, or the document has no value of its
  form. -/
  | malformed
  /-- An escape names a code point above the last one. -/
  | codePointTooLarge
  /-- An escape names a number of more than thirty-one bits. -/
  | codePointOverflow
  /-- An escape names one half of a surrogate pair, which is no
  character. -/
  | surrogate
  /-- A decimal integer has more digits than are read. -/
  | numberTooLong
  /-- The text of a number spells none. -/
  | unreadableNumber
  /-- The text of a number is a sign or nothing. -/
  | emptyNumber
  /-- A place of a number in base sixty is out of range. -/
  | numberOverflow
  /-- The text of a truth value is none of the six words. -/
  | unknownBoolean
  /-- A timestamp names a day or a time that does not exist. -/
  | impossibleDate
  /-- The text of a timestamp does not have its form. -/
  | unreadableTimestamp
  /-- A timestamp is asked of a mapping. -/
  | timestampOfMapping
  /-- The text of a mapping is looked for under its value key, and there
  is the mapping itself. -/
  | endless
deriving DecidableEq, Repr

/-- A fault that stops the reading of a text. -/
structure Halt where
  fault : Fault
  /-- How many characters of the text have been looked at. -/
  reach : Nat
deriving DecidableEq, Repr

end Yaml

end HandlerGen
