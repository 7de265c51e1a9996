import HandlerGen.Decimal.Binary64
import HandlerGen.Text
/-!
# Shortest decimals

The decimal that a binary number is written with: of the decimals that
read back as the number, one with the fewest digits, and of these the
nearest (`Binary64.shortest`). A decimal reads back if it lies between
the midpoints to the two neighbouring numbers; a midpoint itself belongs
to the number with the even significand.

How the digits are laid out is up to the format that shows the number;
`DecimalLayout` holds its decisions.
-/

namespace HandlerGen

namespace Binary64

/-- The decimals that read back as `m * 2 ^ q`, in units of
`2 ^ (q - 2)`: the two ends of their range. The gap below a power of two
is half the gap above it, save at the foot of the format. -/
def midpoints (m : Nat) (q : Int) : Nat × Nat :=
  (if m = leastNormal ∧ -1074 < q then 4 * m - 1 else 4 * m - 2, 4 * m + 2)

/-- Two factors by which `a * 10 ^ s` and `b * 2 ^ p` are brought to
integers of the same unit. -/
def commonUnit (s p : Int) : Nat × Nat :=
  (Nat.pow 10 s.toNat * Nat.pow 2 (-p).toNat, Nat.pow 2 p.toNat * Nat.pow 10 (-s).toNat)

/-- Whether `d * 10 ^ s` reads back as `m * 2 ^ q`. -/
def readsBack (m : Nat) (q : Int) (d : Nat) (s : Int) : Bool :=
  let (f, g) := commonUnit s (q - 2)
  let (lo, hi) := midpoints m q
  if m % 2 = 0 then lo * g ≤ d * f && d * f ≤ hi * g
  else lo * g < d * f && d * f < hi * g

/-- The multiple of `10 ^ s` next to `m * 2 ^ q` that reads back as it:
of the two neighbours on that grid the nearer, of two equally near ones
the even. -/
def onGrid? (m : Nat) (q : Int) (s : Int) : Option Nat :=
  let (f, g) := commonUnit s (q - 2)
  -- the value lies from `below` up to, but not including, `above`
  let v := 4 * m * g
  let below := v / f
  let above := below + 1
  match readsBack m q below s, readsBack m q above s with
  | false, false => none
  | true, false => some below
  | false, true => some above
  | true, true =>
    let toBelow := v - below * f
    let toAbove := above * f - v
    if toBelow < toAbove ∨ (toBelow = toAbove ∧ below % 2 = 0) then some below else some above

/-- The place of the decimal point: the least `e` with
`m * 2 ^ q < 10 ^ e`, for a number that is not nought. -/
def pointPlace (m : Nat) (q : Int) : Int :=
  if 0 ≤ q then (Nat.toDigits 10 (m * Nat.pow 2 q.toNat)).length
  else
    let whole := m / Nat.pow 2 (-q).toNat
    if 0 < whole then (Nat.toDigits 10 whole).length
    else
      -- `m * 10 ^ 400 / 2 ^ (-q)` has the digits of the number after 400 places
      (Nat.toDigits 10 (m * Nat.pow 10 400 / Nat.pow 2 (-q).toNat)).length - 400

/-- The first grid, from coarse to fine, with a decimal that reads back.
On the coarsest the next power of ten may be that decimal; it has one
digit. -/
def searchGrids (m : Nat) (q : Int) (point : Int) : Nat → Nat → Nat × Int
  | 0, _ => (0, 0)
  | fuel + 1, digits =>
    match onGrid? m q (point - digits) with
    | some d => if d = 10 then (1, point - digits + 1) else (d, point - digits)
    | none => searchGrids m q point fuel (digits + 1)

/-- The shortest decimal for a finite number that is not nought, without
its sign: digits and the exponent of the power of ten they are
multiplied by. Seventeen digits always do. -/
def shortest (x : Binary64) : Nat × Int :=
  let (m, q) := x.significand
  searchGrids m q (pointPlace m q) 17 1

end Binary64

/-- How a format lays out the digits of a number. -/
structure DecimalLayout where
  /-- The least and the greatest power of ten of the first digit for
  which the number is written without an exponent. -/
  leastPositional : Int
  greatestPositional : Int
  /-- The fraction of a number that has none. -/
  emptyFraction : Text
  /-- The least count of digits of an exponent, which has a sign
  always. -/
  exponentWidth : Nat
  infinity : Text
  notANumber : Text

namespace DecimalLayout

/-- Digits and a place for the point, without an exponent. -/
def positional (l : DecimalLayout) (digits : Text) (point : Int) : Text :=
  if point ≤ 0 then '0' :: '.' :: (List.replicate (-point).toNat '0' ++ digits)
  else
    let whole := (digits.take point.toNat).rightpad point.toNat '0'
    let rest := digits.drop point.toNat
    whole ++ (if rest.isEmpty then l.emptyFraction else '.' :: rest)

/-- Digits with the point after the first and an exponent. -/
def scientific (l : DecimalLayout) (digits : Text) (exponent : Int) : Text :=
  let fraction :=
    match digits with
    | d :: e :: ds => d :: '.' :: e :: ds
    | ds => ds
  fraction ++ 'e' :: (if exponent < 0 then '-' else '+')
    :: (Nat.toDigits 10 exponent.natAbs).leftpad l.exponentWidth '0'

/-- The text of a number. -/
def text (l : DecimalLayout) (x : Binary64) : Text :=
  let sign : Text := if x.isNegative then ['-'] else []
  if x.exponentField = 0x7FF then
    if x.fractionField = 0 then sign ++ l.infinity else l.notANumber
  else if x.exponentField = 0 ∧ x.fractionField = 0 then sign ++ '0' :: l.emptyFraction
  else
    let (d, s) := x.shortest
    let digits := Nat.toDigits 10 d
    let exponent := digits.length + s - 1
    sign ++
      if l.leastPositional ≤ exponent ∧ exponent ≤ l.greatestPositional then
        l.positional digits (exponent + 1)
      else l.scientific digits exponent

end DecimalLayout

end HandlerGen
