import HandlerGen.Decimal.Binary64
import HandlerGen.Text.Blank
import HandlerGen.Text.DecimalDigit
import HandlerGen.Yaml.Token.Property
/-!
# Numbers

The values of integer and float scalars. The underscores of a text do
not count, and a sign comes first. An integer is binary behind `0b`,
hexadecimal behind `0x`, octal behind a nought, and in base sixty where
it has colons; a float is in base sixty where it has colons, and
infinity and the number that is none have words of their own.

A scalar that is tagged as a number may have any text. What remains of
it is read liberally: white space around it is dropped, the digits of
all scripts count, and there may be a second sign.
-/

namespace HandlerGen

namespace Yaml

namespace Number

/-- White space around a number. The information separators are none. -/
def isMargin (c : Char) : Bool := isBlank c && !('\x1c' ≤ c && c ≤ '\x1f')

/-- A text less the white space around it, its decimal digits in
ASCII. -/
def normalised (t : Text) : Text :=
  let inner := (t.dropWhile isMargin).reverse.dropWhile isMargin |>.reverse
  inner.map fun c =>
    match decimalDigit? c with
    | some d => Char.ofNat ('0'.toNat + d)
    | none => c

/-- The number that digits spell in a base. -/
def natIn? (base : Nat) : Nat → Text → Option Nat
  | acc, [] => some acc
  | acc, c :: t =>
    match digitIn? base c with
    | some d => natIn? base (acc * base + d) t
    | none => none

/-- The sign of a text and what comes after it. -/
def sign : Text → Bool × Text
  | '-' :: t => (true, t)
  | '+' :: t => (false, t)
  | t => (false, t)

/-- The letter that may mark a base behind a nought. -/
def baseMark (base : Nat) : Option Char :=
  if base = 2 then some 'b' else if base = 8 then some 'o' else if base = 16 then some 'x' else none

/-- Digits less the nought and the letter that mark their base. -/
def withoutBaseMark (base : Nat) : Text → Text
  | '0' :: c :: t => if some c.toLower = baseMark base then t else '0' :: c :: t
  | t => t

/-- The integer that a text spells in a base. Decimal integers are
limited in length. -/
def readIn (base : Nat) (t : Text) : Except Fault Int :=
  let (negative, u) := sign (normalised t)
  let digits := withoutBaseMark base u
  if digits.isEmpty then .error .unreadableNumber
  else
    match natIn? base 0 digits with
    | none => .error .unreadableNumber
    | some n =>
      -- noughts in front count towards the limit too
      if base = 10 ∧ digitLimit < digits.length then .error .numberTooLong
      else .ok (if negative then -n else n)

/-- The value of places in base sixty, the last place first. -/
def inBaseSixty : List Int → Int
  | [] => 0
  | d :: ds => d + 60 * inBaseSixty ds

/-- A text less its underscores and its sign, and whether the sign is
negative. A sign alone is no number. -/
def split (t : Text) : Except Fault (Bool × Text) :=
  let u := t.filter (· != '_')
  if u.isEmpty then .error .emptyNumber else .ok (sign u)

/-- The value of an integer less its underscores and its sign. -/
def magnitude (t : Text) : Except Fault Int :=
  match t with
  | [] => .error .emptyNumber
  | ['0'] => .ok 0
  | '0' :: 'b' :: ds => readIn 2 ds
  | '0' :: 'x' :: ds => readIn 16 ds
  -- a nought without a letter stays with the digits
  | '0' :: _ => readIn 8 t
  | _ =>
    if t.contains ':' then
      ((t.splitOn ':').mapM (readIn 10)).map fun places => inBaseSixty places.reverse
    else readIn 10 t

/-- The value of an integer scalar. -/
def int (t : Text) : Except Fault Int := do
  let (negative, u) ← split t
  let n ← magnitude u
  return if negative then -n else n

/-! ## Floats -/

/-- The exponent of a decimal: nought if there is none, and otherwise a
letter, a sign that may be left out, and digits. -/
def exponent? : Text → Option Int
  | [] => some 0
  | e :: t =>
    if e = 'e' ∨ e = 'E' then
      let (negative, digits) := sign t
      if digits.isEmpty then none
      else (natIn? 10 0 digits).map fun n => if negative then -(n : Int) else n
    else none

/-- The words for what is no finite number. -/
def wordValue? (t : Text) : Option Binary64 :=
  let w := t.map Char.toLower
  if w = "inf".toList ∨ w = "infinity".toList then some .infinity
  else if w = "nan".toList then some .nan
  else none

/-- A decimal without a sign: digits before or after a point, or on both
sides, and an exponent. -/
def decimal? (t : Text) : Option Binary64 := do
  let whole := t.takeWhile Char.isDigit
  let rest := t.dropWhile Char.isDigit
  let (fraction, rest) :=
    match rest with
    | '.' :: u => (u.takeWhile Char.isDigit, u.dropWhile Char.isDigit)
    | _ => ([], rest)
  if whole.isEmpty && fraction.isEmpty then none
  else
    let e ← exponent? rest
    let digits ← natIn? 10 0 (whole ++ fraction)
    return .ofDecimal digits (e - fraction.length)

/-- The float that a text spells. -/
def readFloat? (t : Text) : Option Binary64 := do
  let (negative, u) := sign (normalised t)
  let x ←
    match wordValue? u with
    | some x => some x
    | none => decimal? u
  return if negative then x.neg else x

/-- The value of places in base sixty, the last place first, where that
place has the given weight. A weight that is no float is out of
range. -/
def floatInBaseSixty : Nat → Float → List Binary64 → Except Fault Float
  | _, acc, [] => .ok acc
  | weight, acc, d :: ds =>
    let w := Binary64.ofDecimal weight 0
    if w = .infinity then .error .numberOverflow
    else floatInBaseSixty (60 * weight) (acc + d.toFloat * w.toFloat) ds

/-- The value of a float less its underscores and its sign, in small
letters. -/
def floatMagnitude (t : Text) : Except Fault Binary64 :=
  let place (t : Text) : Except Fault Binary64 :=
    match readFloat? t with
    | some x => .ok x
    | none => .error .unreadableNumber
  if t = ".inf".toList then .ok .infinity
  else if t = ".nan".toList then .ok .nan
  else if t.contains ':' then do
    let places ← (t.splitOn ':').mapM place
    return .ofFloat (← floatInBaseSixty 1 0 places.reverse)
  else place t

/-- The value of a float scalar. -/
def float (t : Text) : Except Fault Binary64 := do
  let (negative, u) ← split t
  let x ← floatMagnitude (u.map Char.toLower)
  return if negative then x.neg else x

end Number

end Yaml

end HandlerGen
