import HandlerGen.Descriptor
import HandlerGen.Yaml.Token
/-!
# A writer of handler files

A handler file for any list of descriptors (`HandlerFile.written`). It is
written on one line in flow style: first as tokens, and these in their
spelling one behind the other. So that no character of a text matters to
the form of the file, texts stand in double quotes with every character as
an escape of eight digits. Keys are announced by a question mark, as a key
that is not must be short, and every item and entry has a comma behind it.

The descriptors' sources are not written.
-/

namespace HandlerGen

namespace Yaml

/-! ## Tokens in their spelling -/

/-- A character as an escape of eight digits. -/
def escaped (c : Char) : Text := '\\' :: 'U' :: hexadecimal 8 c.toNat

/-- How a token of flow style is spelt. -/
def Token.spelling : Token → Text
  | .flowSequenceStart => ['[']
  | .flowSequenceEnd => [']']
  | .flowMappingStart => ['\x7b']
  | .flowMappingEnd => ['\x7d']
  | .flowEntry => [',']
  | .key => ['?']
  | .value => [':']
  | .scalar t false => '"' :: (t.flatMap escaped ++ ['"'])
  | .scalar t true => t
  | _ => []

/-- Tokens, one behind the other. -/
def spelled (ts : List Token) : Text := ts.flatMap Token.spelling

theorem spelled_append (ts us : List Token) : spelled (ts ++ us) = spelled ts ++ spelled us :=
  List.flatMap_append

/-! ## Values as tokens -/

/-- The word of a truth value. -/
def flagWord (b : Bool) : Text := if b then ['t', 'r', 'u', 'e'] else ['f', 'a', 'l', 's', 'e']

namespace Flow

/-- A text, in quotes. -/
def text (t : Text) : List Token := [.scalar t false]

/-- A truth value, without quotes. -/
def flag (b : Bool) : List Token := [.scalar (flagWord b) true]

/-- An item of a list, with a comma behind it. -/
def item (v : List Token) : List Token := v ++ [.flowEntry]

/-- A list. -/
def listed (items : List (List Token)) : List Token :=
  .flowSequenceStart :: (items.flatMap item ++ [.flowSequenceEnd])

/-- An entry of a mapping, with a question mark before its key. -/
def entry (e : Text × List Token) : List Token :=
  item (.key :: .scalar e.1 false :: .value :: e.2)

/-- A mapping. -/
def mapped (entries : List (Text × List Token)) : List Token :=
  .flowMappingStart :: (entries.flatMap entry ++ [.flowMappingEnd])

end Flow

end Yaml

/-! ## Handler files -/

/-- The tokens of a record. -/
def Descriptor.tokens (d : Descriptor) : List Yaml.Token :=
  Yaml.Flow.mapped
    [("name".toList, Yaml.Flow.text d.name),
      ("description".toList, Yaml.Flow.text d.description),
      ("rpcMethod".toList, Yaml.Flow.text d.rpcMethod),
      ("needsDebugVerification".toList, Yaml.Flow.flag d.needsDebugVerification),
      ("needsDartServiceExtensionProxy".toList, Yaml.Flow.flag d.needsDartServiceExtensionProxy),
      ("responseWrapper".toList, Yaml.Flow.flag d.responseWrapper),
      ("parameters".toList,
        Yaml.Flow.mapped (d.parameters.entries.map fun e => (e.1, Yaml.Flow.text e.2)))]

/-- The tokens of a handler file. -/
def HandlerFile.tokens (ds : List Descriptor) : List Yaml.Token :=
  Yaml.Flow.mapped [("handlers".toList, Yaml.Flow.listed (ds.map Descriptor.tokens))]

/-- **The handler file of a list of descriptors.** -/
def HandlerFile.written (ds : List Descriptor) : Text := Yaml.spelled (HandlerFile.tokens ds)

end HandlerGen
