import HandlerGen.Value
import HandlerGen.Yaml.Scalar.Base64
import HandlerGen.Yaml.Scalar.Number
import HandlerGen.Yaml.Tag
/-!
# The values of scalars

The value that the text of a scalar has under a tag. A tag that the node
spells out may promise what the text does not keep; the fault says
which promise that is.
-/

namespace HandlerGen

namespace Yaml

/-- The truth value that a word spells, in letters of either case. -/
def truthValue (t : Text) : Except Fault Bool :=
  let w := t.map Char.toLower
  if w = "yes".toList ∨ w = "true".toList ∨ w = "on".toList then .ok true
  else if w = "no".toList ∨ w = "false".toList ∨ w = "off".toList then .ok false
  else .error .unknownBoolean

/-- The date or the moment that a timestamp names. -/
def Timestamp.value (t : Text) : Except Fault Scalar :=
  match Timestamp.parts? t.dropFinalBreak with
  | none => .error .unreadableTimestamp
  | some ((year, month, day), none) =>
    match Date.of? year month day with
    | some d => .ok (.date d)
    | none => .error .impossibleDate
  | some ((year, month, day), some time) =>
    match Moment.of? (Date.of? year month day) time.hour time.minute time.second time.microsecond
        time.offset with
    | some m => .ok (.moment m)
    | none => .error .impossibleDate

/-- The value of a text under a tag of scalars. The tags of collections
and the tags without values have none. -/
def Tag.scalar (tag : Tag) (t : Text) : Except Fault Scalar :=
  match tag with
  | .null => .ok .null
  | .bool => (truthValue t).map .bool
  | .int => (Number.int t).map .int
  | .float => (Number.float t).map .float
  | .timestamp => Timestamp.value t
  | .binary => (Base64.decode t).map .bytes
  | .text => .ok (.text t)
  | _ => .error .malformed

end Yaml

end HandlerGen
