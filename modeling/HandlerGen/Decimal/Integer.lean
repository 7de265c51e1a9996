import HandlerGen.Text
/-!
# Decimal integers

The text of an integer: its digits without noughts in front, and a minus
sign before a negative one. Decimal integers are read and shown up to a
count of digits (`digitLimit`), which bounds the work that they take.
-/

namespace HandlerGen

/-- A natural number in decimal. -/
def natText (n : Nat) : Text := Nat.toDigits 10 n

/-- An integer in decimal. -/
def intText (i : Int) : Text := if i < 0 then '-' :: natText i.natAbs else natText i.natAbs

/-- The most digits that a decimal integer is read or shown with. -/
def digitLimit : Nat := 4300

/-- The text of an integer, unless it has too many digits to be
shown. -/
def intText? (i : Int) : Option Text :=
  if i.natAbs < Nat.pow 10 digitLimit then some (intText i) else none

end HandlerGen
