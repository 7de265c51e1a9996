import HandlerGen.Parameters
/-!
# The object of a remote call

The object literal that a generated method passes to the remote call. It
has one property for each parameter: at the top under the key its rule
asks for, or in the object at the key `arg`, which stands last.

The key `arg` goes to one party: to one parameter, by its rule or by its
name, or to the fields. The literal is built parameter by parameter, so
the first parameter that contends for a key already given is the one
that is refused (`CallObject.add`).
-/

namespace HandlerGen

/-- The value of a property: what the method was called with under a
name, or the port number. -/
inductive PropertyValue
  | param (name : Text)
  | port
deriving DecidableEq, Repr

/-- The one key at the top that several parameters may ask for. -/
def argKey : Text := "arg"

/-- An object literal under construction. -/
structure CallObject where
  /-- The properties at the top, in order. -/
  top : List (Text × PropertyValue) := []
  /-- The fields of the object at the key `arg`, in order, each with the
  parameter it takes its value from. -/
  nested : List (Text × Text) := []
  /-- The parameter that has the key `arg` at the top. -/
  owner : Option Text := none
deriving DecidableEq, Repr

namespace CallObject

/-- Whether a parameter with this rule needs the key `arg` at the top. -/
def needsArg (name : Text) : Rule → Bool
  | .arg => true
  | .argField _ => false
  | _ => name = argKey

/-- The literal with one more parameter. -/
def add (o : CallObject) (name text : Text) : Except RuleFault CallObject :=
  match Rule.read name text with
  | .error e => .error e
  | .ok rule =>
    -- contending for the key at the top comes before any other fault
    if needsArg name rule && (o.owner.isSome || !o.nested.isEmpty) then
      .error (.argTaken name o.owner)
    else
      let owner := if needsArg name rule then some name else o.owner
      match rule with
      | .passthrough => .ok { o with top := o.top ++ [(name, .param name)], owner }
      | .port => .ok { o with top := o.top ++ [(name, .port)], owner }
      | .arg => .ok { o with top := o.top ++ [(argKey, .param name)], owner }
      | .argField field =>
        match o.owner with
        | some other => .error (.argOwned name field other)
        | none => .ok { o with nested := o.nested ++ [(field, name)] }

/-- The literal with the parameters of a list added in order. -/
def addAll (o : CallObject) : List (Text × Text) → Except RuleFault CallObject
  | [] => .ok o
  | (name, text) :: es =>
    match o.add name text with
    | .error e => .error e
    | .ok o => o.addAll es

/-- The literal for the parameters of a handler. -/
def ofParameters (ps : Parameters) : Except RuleFault CallObject := addAll {} ps.entries

/-- A property at the top. -/
def propertyText : Text × PropertyValue → Text
  | (key, .param name) => key ++ ": params?." ++ name
  | (key, .port) => key ++ ": port"

/-- A field of the object at the key `arg`. -/
def fieldText : Text × Text → Text
  | (key, name) => key ++ ": params?." ++ name

/-- Properties in braces, with a comma between any two. -/
def braced (properties : List Text) : Text :=
  "\x7b " ++ List.intercalate ", " properties ++ " \x7d"

/-- The text of the literal. -/
def text (o : CallObject) : Text :=
  if o.top.isEmpty && o.nested.isEmpty then "\x7b\x7d"
  else
    let nested := if o.nested.isEmpty then [] else ["arg: " ++ braced (o.nested.map fieldText)]
    braced (o.top.map propertyText ++ nested)

end CallObject

/-- The text of the object that a method passes to the remote call. -/
def Parameters.expression (ps : Parameters) : Except RuleFault Text :=
  (CallObject.ofParameters ps).map CallObject.text

end HandlerGen
