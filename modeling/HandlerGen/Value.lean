import HandlerGen.Calendar
import HandlerGen.Decimal.Integer
import HandlerGen.Decimal.Shortest
import HandlerGen.Entries
import HandlerGen.Text.Quoted
/-!
# Values

What a handler file holds once it is read: scalars, lists, mappings and
sets. The keys of a mapping are scalars, and its entries are in order.
A message may show a scalar as it would be written in source
(`Scalar.shown?`) and name the kind of any value (`Value.kind`).
-/

namespace HandlerGen

/-- A value without parts. -/
inductive Scalar
  | null
  | bool (b : Bool)
  | int (i : Int)
  | float (x : Binary64)
  | text (t : Text)
  | bytes (bs : List UInt8)
  | date (d : Date)
  | moment (m : Moment)
deriving DecidableEq, Repr

/-- What a handler file holds once it is read. -/
inductive Value
  | scalar (s : Scalar)
  | list (items : List Value)
  | dict (entries : List (Scalar × Value))
  | set (items : List Scalar)

namespace Scalar

/-- Numbers are written without an exponent from `0.0001` up to below
`10 ^ 16`, always with a fraction; an exponent has a sign and two digits
at least. -/
def floatLayout : DecimalLayout where
  leastPositional := -4
  greatestPositional := 15
  emptyFraction := ".0"
  exponentWidth := 2
  infinity := "inf"
  notANumber := "nan"

/-- Arguments in parentheses after the name of what they make. -/
def application (name : Text) (arguments : List Text) : Text :=
  name ++ '(' :: (List.intercalate ", " arguments ++ [')'])

/-- A distance from universal time. A whole day is split off a negative
one, so that the seconds that are left are positive. -/
def offsetText (minutes : Int) : Text :=
  if minutes = 0 then "datetime.timezone.utc"
  else
    let days := minutes.fdiv (24 * 60)
    let seconds := minutes.fmod (24 * 60) * 60
    let parts : List Text :=
      (if days = 0 then [] else ["days=" ++ intText days])
        ++ (if seconds = 0 then [] else ["seconds=" ++ intText seconds])
    application "datetime.timezone" [application "datetime.timedelta" parts]

/-- A moment by its parts. Seconds and microseconds that are nought at
the end are left out. -/
def momentText (m : Moment) : Text :=
  let small :=
    if m.microsecond ≠ 0 then [m.second, m.microsecond]
    else if m.second ≠ 0 then [m.second]
    else []
  let parts := [m.date.year, m.date.month, m.date.day, m.hour, m.minute] ++ small
  let zone : List Text :=
    match m.offset with
    | none => []
    | some o => ["tzinfo=" ++ offsetText o]
  application "datetime.datetime" (parts.map natText ++ zone)

/-- A scalar as it would be written in source. Integers with too many
digits are not shown. -/
def shown? : Scalar → Option Text
  | null => some "None"
  | bool true => some "True"
  | bool false => some "False"
  | int i => intText? i
  | float x => some (floatLayout.text x)
  | text t => some t.quoted
  | bytes bs => some (quotedBytes bs)
  | date d => some (application "datetime.date" ([d.year, d.month, d.day].map natText))
  | moment m => some (momentText m)

/-- The name of a scalar's kind. -/
def kind : Scalar → Text
  | null => "NoneType"
  | bool _ => "bool"
  | int _ => "int"
  | float _ => "float"
  | text _ => "str"
  | bytes _ => "bytes"
  | date _ => "date"
  | moment _ => "datetime"

end Scalar

namespace Value

/-- The name of a value's kind. -/
def kind : Value → Text
  | scalar s => s.kind
  | list _ => "list"
  | dict _ => "dict"
  | set _ => "set"

/-- The null value. -/
def null : Value := scalar .null

instance : Inhabited Value := ⟨null⟩

end Value

end HandlerGen
