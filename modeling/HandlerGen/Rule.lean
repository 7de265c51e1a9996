import HandlerGen.Identifier
import HandlerGen.Text.Quoted
/-!
# Mapping rules

Each parameter of a handler carries a rule that says where its value
goes in the remote call: under its own name (the empty rule), to the
connection's port number (`port`), under the key `arg` (`arg`), or under
a field of an object at the key `arg` (`arg.` and the field). Any other
text is no rule.

`RuleFault` lists the causes for which the rules of a handler are
refused, and `RuleFault.message` words them. The last two arise where
the rules of two parameters contend for the key `arg`.
-/

namespace HandlerGen

/-- Where the value of a parameter goes in the remote call. -/
inductive Rule
  /-- Under the parameter's own name. -/
  | passthrough
  /-- The key is the parameter's name and the value the port number. -/
  | port
  /-- Under the key `arg`. -/
  | arg
  /-- Under a field of the object at the key `arg`. -/
  | argField (field : Text)
deriving DecidableEq, Repr

/-- Why the rules of a handler are refused. -/
inductive RuleFault
  /-- The field of an `arg.` rule is no identifier. -/
  | badField (param rule : Text)
  /-- The text of the rule is none of the known forms. -/
  | unrecognized (param rule : Text)
  /-- The parameter needs the key `arg`, which `owner` has already, or,
  without an owner, fields have. -/
  | argTaken (param : Text) (owner : Option Text)
  /-- The parameter needs a field of `arg`, and `owner` has the key. -/
  | argOwned (param field owner : Text)
deriving DecidableEq, Repr

/-- The name of a kind of rule. -/
def Rule.kind : Rule → Text
  | .passthrough => "passthrough"
  | .port => "port"
  | .arg => "arg"
  | .argField _ => "arg_field"

/-- The field that a rule names. -/
def Rule.field? : Rule → Option Text
  | .argField f => some f
  | _ => none

/-- The rule that a text spells, for the parameter it belongs to. -/
def Rule.read (param : Text) : Text → Except RuleFault Rule
  | [] => .ok .passthrough
  | ['p', 'o', 'r', 't'] => .ok .port
  | ['a', 'r', 'g'] => .ok .arg
  | 'a' :: 'r' :: 'g' :: '.' :: field =>
    if Text.readsAsIdentifier field then .ok (.argField field)
    else .error (.badField param ("arg." ++ field))
  | rule => .error (.unrecognized param rule)

/-- Who has the key `arg`, as a message names it. A parameter with the
empty name goes unnamed, as the fields do. -/
def RuleFault.holder : Option Text → Text
  | some (c :: t) => ('\'' :: c :: t) ++ ['\'']
  | _ => "an 'arg.<field>' rule"

/-- The wording of a fault. -/
def RuleFault.message : RuleFault → Text
  | .badField param rule =>
    "Parameter '" ++ param ++ "': invalid argument field in rule " ++ rule.quoted
  | .unrecognized param rule =>
    "Parameter '" ++ param ++ "': unrecognized mapping rule " ++ rule.quoted
      ++ " (expected '', 'port', 'arg' or 'arg.<field>')"
  | .argTaken param owner =>
    "Parameter '" ++ param ++ "': top-level 'arg' key cannot be combined with " ++ holder owner
  | .argOwned param field owner =>
    "Parameter '" ++ param ++ "': 'arg." ++ field
      ++ "' cannot be combined with the top-level 'arg' key from '" ++ owner ++ "'"

end HandlerGen
