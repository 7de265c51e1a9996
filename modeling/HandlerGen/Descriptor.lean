import HandlerGen.Parameters
import HandlerGen.Text.Blank
import HandlerGen.Value
/-!
# Handler descriptors

A descriptor says what one generated handler does. It is read from one
record of a handler file (`Descriptor.ofValue`), and a record that does
not fit is refused for the first of its faults, in a fixed order: the
record itself, the name and its shape, the three flags, the description,
the remote method, and the parameters in their order.

A message says where the record stands: by its place in the file until
its name is known, and by its name from then on.
-/

namespace HandlerGen

/-- One handler to generate. -/
structure Descriptor where
  /-- The snake-case name, which is the key in the dispatch map. -/
  name : Text
  /-- The text of the doc comment. -/
  description : Text
  /-- The remote method that is called. -/
  rpcMethod : Text
  /-- Whether the generated method first verifies the debug mode. -/
  needsDebugVerification : Bool := false
  /-- Whether the call goes by way of the extension proxy. -/
  needsDartServiceExtensionProxy : Bool := false
  /-- Whether the result is wrapped into a response. -/
  responseWrapper : Bool := true
  parameters : Parameters := .empty
  /-- The name of the file that the record stands in. -/
  source : Text := []
deriving DecidableEq

/-- The flags of a record. -/
inductive Flag
  | needsDebugVerification
  | needsDartServiceExtensionProxy
  | responseWrapper
deriving DecidableEq, Repr

/-- The key of a flag in a record. -/
def Flag.key : Flag → Text
  | needsDebugVerification => "needsDebugVerification"
  | needsDartServiceExtensionProxy => "needsDartServiceExtensionProxy"
  | responseWrapper => "responseWrapper"

/-- The value of a flag that is not given. -/
def Flag.default : Flag → Bool
  | needsDebugVerification => false
  | needsDartServiceExtensionProxy => false
  | responseWrapper => true

/-- Why a record is refused. The faults that are found once the name is
known carry it. -/
inductive RecordFault
  | notMapping
  | nameMissing
  | nameShape (name : Text)
  | flagNotBoolean (name : Text) (flag : Flag)
  | textMissing (name key : Text)
  | parametersNotMapping (name : Text)
  | parameterName (name : Text) (key : Scalar)
  | ruleNotText (name param kind : Text)
deriving DecidableEq

/-- The wording of a fault, for the record at a place of a file. A fault
about a key that cannot be shown has none. -/
def RecordFault.message? (source : Text) (index : Int) : RecordFault → Option Text
  | notMapping => some (atPlace ++ " must be a mapping")
  | nameMissing => some (atPlace ++ ": 'name' must be a non-empty string")
  | nameShape name => some (ofHandler name ++ ": name must be snake_case")
  | flagNotBoolean name flag =>
    some (ofHandler name ++ ": '" ++ flag.key ++ "' must be true or false")
  | textMissing name key => some (ofHandler name ++ ": '" ++ key ++ "' must be a non-empty string")
  | parametersNotMapping name => some (ofHandler name ++ ": 'parameters' must be a mapping")
  | parameterName name key =>
    key.shown?.map fun shown => ofHandler name ++ ": invalid parameter name " ++ shown
  | ruleNotText name param kind =>
    some (ofHandler name ++ ": mapping rule for '" ++ param ++ "' must be a string, got " ++ kind)
where
  atPlace : Text := source ++ ": handlers[" ++ intText index ++ "]"
  ofHandler (name : Text) : Text := source ++ ": handler '" ++ name ++ "'"

namespace Descriptor

/-- The value at a key of a record, which is a text. -/
def field? (record : List (Scalar × Value)) (key : Text) : Option Value :=
  record.lookup (.text key)

/-- A text with a character that shows. -/
def shownText? : Option Value → Option Text
  | some (.scalar (.text t)) => if t.isBlank then none else some t
  | _ => none

/-- The value of a flag. Null stands for a flag that is not given. -/
def readFlag (record : List (Scalar × Value)) (name : Text) (flag : Flag) :
    Except RecordFault Bool :=
  match field? record flag.key with
  | none => .ok flag.default
  | some (.scalar .null) => .ok flag.default
  | some (.scalar (.bool b)) => .ok b
  | some _ => .error (.flagNotBoolean name flag)

/-- A text of the record that must be given. -/
def readText (record : List (Scalar × Value)) (name key : Text) : Except RecordFault Text :=
  match shownText? (field? record key) with
  | some t => .ok t
  | none => .error (.textMissing name key)

/-- The parameters of a mapping, added in order. Null stands for the
empty rule. -/
def readEntries (name : Text) (ps : Parameters) :
    List (Scalar × Value) → Except RecordFault Parameters
  | [] => .ok ps
  | (.text param, rule) :: es =>
    if param.readsAsIdentifier then
      match rule with
      | .scalar .null => readEntries name (ps.put param []) es
      | .scalar (.text t) => readEntries name (ps.put param t) es
      | other => .error (.ruleNotText name param other.kind)
    else .error (.parameterName name (.text param))
  | (key, _) :: _ => .error (.parameterName name key)

/-- The parameters of a record. Null stands for none. -/
def readParameters (record : List (Scalar × Value)) (name : Text) :
    Except RecordFault Parameters :=
  match field? record "parameters" with
  | none => .ok .empty
  | some (.scalar .null) => .ok .empty
  | some (.dict es) => readEntries name .empty es
  | some _ => .error (.parametersNotMapping name)

/-- The descriptor of one record. -/
def ofValue (source : Text) : Value → Except RecordFault Descriptor
  | .dict record => do
    let some name := shownText? (field? record "name") | .error .nameMissing
    if name.readsAsSnakeCase then
      -- the first fault in this order is the one that is reported
      let needsDebugVerification ← readFlag record name .needsDebugVerification
      let needsDartServiceExtensionProxy ← readFlag record name .needsDartServiceExtensionProxy
      let responseWrapper ← readFlag record name .responseWrapper
      let description ← readText record name "description"
      let rpcMethod ← readText record name "rpcMethod"
      let parameters ← readParameters record name
      return { name, description, rpcMethod, needsDebugVerification,
               needsDartServiceExtensionProxy, responseWrapper, parameters, source }
    else .error (.nameShape name)
  | _ => .error .notMapping

end Descriptor

end HandlerGen
