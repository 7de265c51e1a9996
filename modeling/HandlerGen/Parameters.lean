import HandlerGen.Entries
import HandlerGen.Rule
/-!
# Parameters

A handler's parameters with the texts of their rules, in the order of
the handler file, each name once. The module also tells which of them a
generated method reads from the bag of parameters it is called with:
all but those whose rule is the port number.
-/

namespace HandlerGen

/-- Parameter names with the texts of their rules, in order. -/
structure Parameters where
  /-- The names and their rules. -/
  entries : List (Text × Text)
  /-- No name has two rules. -/
  nodup : (entries.map Prod.fst).Nodup
deriving DecidableEq

namespace Parameters

/-- No parameters. -/
def empty : Parameters := ⟨[], List.nodup_nil⟩

instance : Inhabited Parameters := ⟨empty⟩

/-- Gives a parameter a rule: in its place if it has one, else at the
end. -/
def put (name rule : Text) (ps : Parameters) : Parameters :=
  ⟨Entries.put name rule ps.entries, Entries.nodup_keys_put ps.nodup⟩

/-- The parameters of a list of names and rules, read one by one. -/
def ofPairs (ps : List (Text × Text)) : Parameters :=
  ⟨Entries.ofPairs ps, Entries.nodup_keys_ofPairs ps⟩

/-- Whether there is no parameter. -/
def isEmpty (ps : Parameters) : Bool := ps.entries.isEmpty

/-- The names of a list of entries whose rule is not the port number, or
the fault of the first text that is no rule. -/
def fieldsOf : List (Text × Text) → Except RuleFault (List Text)
  | [] => .ok []
  | (name, text) :: es =>
    match Rule.read name text with
    | .error e => .error e
    | .ok rule =>
      match fieldsOf es with
      | .error e => .error e
      | .ok names => .ok (if rule = .port then names else name :: names)

/-- The names that a generated method reads from its parameters. -/
def fields (ps : Parameters) : Except RuleFault (List Text) := fieldsOf ps.entries

end Parameters

end HandlerGen
