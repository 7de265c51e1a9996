import HandlerGen.Text.StringLiteral
import HandlerGen.Value
/-!
# Data for the generated files

The generated files are laid out from named data: scalars, lists and
records. The reader of the data is strict. A name that is not there is a
fault as soon as it is used, and never counts as blank
(`RenderFault.undefined`, `RenderFault.missing`).

A datum goes into a file by its text (`Datum.asText`), by its truth
(`Datum.truth`), item by item (`Datum.items`), or as a literal of the
generated code (`Datum.literal`).
-/

namespace HandlerGen

/-- A datum that a generated file is laid out from. -/
inductive Datum
  | null
  | bool (b : Bool)
  | int (i : Int)
  | float (x : Binary64)
  | text (t : Text)
  | list (items : List Datum)
  | record (fields : List (Text × Datum))

/-- Named data. -/
abbrev DataRecord := List (Text × Datum)

/-- Why data cannot be laid out. -/
inductive RenderFault
  /-- There is no datum of this name. -/
  | undefined (name : Text)
  /-- The datum of this kind has no field of this name. -/
  | missing (holder field : Text)
  /-- A datum that is not there has no literal. -/
  | noLiteral
  /-- A datum without items is gone through item by item. -/
  | noItems
  /-- A datum has the name that stands for the layout itself. -/
  | reserved
deriving DecidableEq, Repr

/-- The wording of a fault that has one. -/
def RenderFault.message? : RenderFault → Option Text
  | undefined name => some (name.quoted ++ " is undefined")
  | missing holder field => some (holder.quoted ++ " has no attribute " ++ field.quoted)
  | noLiteral => none
  | noItems => none
  | reserved => none

namespace Datum

instance : Inhabited Datum := ⟨null⟩

/-- What a message calls a datum. -/
def holder : Datum → Text
  | null => "None"
  | bool _ => "bool object"
  | int _ => "int object"
  | float _ => "float object"
  | text _ => "str object"
  | list _ => "list object"
  | record _ => "dict object"

/-- The truth of a datum: nought, nothing and the empty are false. -/
def truth : Datum → Bool
  | null => false
  | bool b => b
  | int i => i != 0
  | float x => x.exponentField != 0 || x.fractionField != 0
  | text t => !t.isEmpty
  | list items => !items.isEmpty
  | record fields => !fields.isEmpty

mutual

/-- A datum as it would be written in source. -/
def shown : Datum → Text
  | null => "None"
  | bool true => "True"
  | bool false => "False"
  | int i => intText i
  | float x => Scalar.floatLayout.text x
  | text t => t.quoted
  | list items => '[' :: (List.intercalate ", " (shownItems items) ++ [']'])
  | record fields => '\x7b' :: (List.intercalate ", " (shownFields fields) ++ ['\x7d'])

/-- Items as they would be written in source. -/
def shownItems : List Datum → List Text
  | [] => []
  | d :: ds => shown d :: shownItems ds

/-- Fields as they would be written in source. -/
def shownFields : List (Text × Datum) → List Text
  | [] => []
  | (k, d) :: ds => (k.quoted ++ ": " ++ shown d) :: shownFields ds

end

/-- The text of a datum: a text itself, and anything else as it would be
written in source. -/
def asText : Datum → Text
  | text t => t
  | d => d.shown

/-- Floats in a literal are laid out as elsewhere, with other words for
what is no finite number. -/
def literalFloatLayout : DecimalLayout :=
  { Scalar.floatLayout with infinity := "Infinity", notANumber := "NaN" }

/-- Puts a field among fields that are sorted by name. -/
def insertSorted (f : Text × Text) : List (Text × Text) → List (Text × Text)
  | [] => [f]
  | g :: gs => if Text.precedes f.1 g.1 then f :: g :: gs else g :: insertSorted f gs

mutual

/-- The literal of a datum in the generated code. The fields of a record
are sorted by name. -/
def literal : Datum → Text
  | null => "null"
  | bool true => "true"
  | bool false => "false"
  | int i => intText i
  | float x => literalFloatLayout.text x
  | text t => t.literal
  | list items => '[' :: (List.intercalate ", " (literalItems items) ++ [']'])
  | record fields =>
    let sorted := (literalFields fields).foldr insertSorted []
    let texts : List Text := sorted.map fun f => f.1.literal ++ ": " ++ f.2
    '\x7b' :: (List.intercalate ", " texts ++ ['\x7d'])

/-- The literals of items. -/
def literalItems : List Datum → List Text
  | [] => []
  | d :: ds => literal d :: literalItems ds

/-- The names of fields with the literals of their data. -/
def literalFields : List (Text × Datum) → List (Text × Text)
  | [] => []
  | (k, d) :: ds => (k, literal d) :: literalFields ds

end

/-- The items that a datum is gone through by: those of a list, the
characters of a text, the names of a record. -/
def items : Datum → Except RenderFault (List Datum)
  | list ds => .ok ds
  | text t => .ok (t.map fun c => .text [c])
  | record fields => .ok (fields.map fun f => .text f.1)
  | _ => .error .noItems

/-- The field of a datum, if it is there. -/
def field? (d : Datum) (name : Text) : Option Datum :=
  match d with
  | record fields => fields.lookup name
  | _ => none

/-- The field of a datum, which must be there. -/
def field (d : Datum) (name : Text) : Except RenderFault Datum :=
  match d.field? name with
  | some e => .ok e
  | none => .error (.missing d.holder name)

/-- The literal of a field, which must be there. -/
def fieldLiteral (d : Datum) (name : Text) : Except RenderFault Text :=
  match d.field? name with
  | some e => .ok e.literal
  | none => .error .noLiteral

/-- The text of a field. -/
def fieldText (d : Datum) (name : Text) : Except RenderFault Text := do
  return (← d.field name).asText

/-- The truth of a field. -/
def fieldTruth (d : Datum) (name : Text) : Except RenderFault Bool := do
  return (← d.field name).truth

/-- The items of a field. -/
def fieldItems (d : Datum) (name : Text) : Except RenderFault (List Datum) := do
  (← d.field name).items

end Datum

/-- The items of a named datum. -/
def DataRecord.items (r : DataRecord) (name : Text) : Except RenderFault (List Datum) :=
  match r.lookup name with
  | some d => d.items
  | none => .error (.undefined name)

end HandlerGen
