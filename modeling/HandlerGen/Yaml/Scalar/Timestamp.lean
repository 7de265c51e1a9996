import HandlerGen.Calendar
import HandlerGen.Identifier
import HandlerGen.Yaml.Fault
/-!
# Timestamps

The text of a timestamp is a date, or a date and a time of day with an
optional fraction of a second and an optional distance from universal
time. The date stands before the time by the letter `T` or by blanks.
The form says nothing about which days there are, so a text of the form
may still name none.
-/

namespace HandlerGen

namespace Yaml

namespace Timestamp

/-- A number of at least `least` and at most `most` digits at the start
of a text, and the rest. -/
def number? (least most : Nat) (t : Text) : Option (Nat × Text) :=
  let digits := (t.take most).takeWhile Char.isDigit
  if digits.length < least then none
  else some (digits.foldl (fun n d => 10 * n + (d.toNat - '0'.toNat)) 0, t.drop digits.length)

/-- The rest behind a character that must be there. -/
def expect? (c : Char) : Text → Option Text
  | [] => none
  | d :: t => if d = c then some t else none

/-- A character and a number behind it. -/
def numberAfter? (c : Char) (least most : Nat) (t : Text) : Option (Nat × Text) :=
  (expect? c t).bind (number? least most)

/-- A time of day with the rest of the text read as the distance from
universal time. -/
structure TimeOfDay where
  hour : Nat
  minute : Nat
  second : Nat
  microsecond : Nat
  offset : Option Int
deriving DecidableEq, Repr

/-- The first six digits of a fraction, in millionths. -/
def microseconds (digits : Text) : Nat :=
  ((digits.take 6).rightpad 6 '0').foldl (fun n d => 10 * n + (d.toNat - '0'.toNat)) 0

/-- The distance from universal time in minutes. -/
def offset? (t : Text) : Option (Option Int) :=
  match t with
  | [] => some none
  | _ =>
    match t.dropWhile fun c => c == ' ' || c == '\t' with
    | ['Z'] => some (some 0)
    | sign :: u =>
      if sign = '+' ∨ sign = '-' then do
        let (hours, u) ← number? 1 2 u
        let (minutes, u) ← if u.isEmpty then some (0, u) else numberAfter? ':' 2 2 u
        let distance : Int := hours * 60 + minutes
        if u.isEmpty then some (some (if sign = '-' then -distance else distance)) else none
      else none
    | [] => none

/-- A time of day behind a date. -/
def timeOfDay? (t : Text) : Option TimeOfDay := do
  let u ←
    match t with
    | 'T' :: u => some u
    | 't' :: u => some u
    | c :: u =>
      if c = ' ' ∨ c = '\t' then some (u.dropWhile fun c => c == ' ' || c == '\t') else none
    | [] => none
  let (hour, u) ← number? 1 2 u
  let (minute, u) ← numberAfter? ':' 2 2 u
  let (second, u) ← numberAfter? ':' 2 2 u
  -- a point may stand without a fraction behind it
  let (microsecond, u) :=
    match u with
    | '.' :: v => (microseconds (v.takeWhile Char.isDigit), v.dropWhile Char.isDigit)
    | _ => (0, u)
  let offset ← offset? u
  return { hour, minute, second, microsecond, offset }

/-- The year, the month and the day of a timestamp, and its time of day
if it has one. -/
def parts? (t : Text) : Option ((Nat × Nat × Nat) × Option TimeOfDay) := do
  let (year, u) ← number? 4 4 t
  let (month, u) ← numberAfter? '-' 1 2 u
  let (day, u) ← numberAfter? '-' 1 2 u
  let time ← if u.isEmpty then some none else (timeOfDay? u).map some
  return ((year, month, day), time)

/-- Whether a plain scalar is a timestamp. Without a time of day the
month and the day must have two digits. -/
def isPlain (t : Text) : Bool :=
  match parts? t with
  | some (_, none) => t.length == 10
  | some (_, some _) => true
  | none => false

end Timestamp

end Yaml

end HandlerGen
