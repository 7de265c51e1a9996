/-!
# Binary floating point numbers

A number of the 64-bit binary format, held as its bits so that two are
equal only if they are the same number with the same sign. A number is
read from decimal digits by rounding to the nearest, and a finite one is
taken apart into an integer times a power of two.
-/

namespace HandlerGen

/-- A number of the 64-bit binary format. -/
structure Binary64 where
  bits : UInt64
deriving DecidableEq, Repr

namespace Binary64

/-- The number held by a machine word of arithmetic. -/
def ofFloat (x : Float) : Binary64 := ⟨x.toBits⟩

/-- The number as a machine word of arithmetic. -/
def toFloat (x : Binary64) : Float := Float.ofBits x.bits

/-- Positive infinity. -/
def infinity : Binary64 := ⟨0x7FF0000000000000⟩

/-- A number that is none. -/
def nan : Binary64 := ⟨0x7FF8000000000000⟩

/-- The number with the other sign. -/
def neg (x : Binary64) : Binary64 := ⟨x.bits ^^^ 0x8000000000000000⟩

/-- The number nearest to `digits * 10 ^ exponent`. Far outside the range
of the format the answer is infinity or nought, whatever the digits. -/
def ofDecimal (digits : Nat) (exponent : Int) : Binary64 :=
  let point := (Nat.toDigits 10 digits).length + exponent
  if digits = 0 ∨ point < -400 then ⟨0⟩
  else if 400 < point then infinity
  else ofFloat (Float.ofScientific digits (exponent < 0) exponent.natAbs)

/-- The least significand that is written with an exponent of its own,
the fifty-second power of two. -/
def leastNormal : Nat := 0x10000000000000

/-- Whether the sign is negative. -/
def isNegative (x : Binary64) : Bool := 0x8000000000000000 ≤ x.bits.toNat

/-- The eleven bits of the exponent. -/
def exponentField (x : Binary64) : Nat := x.bits.toNat / leastNormal % 0x800

/-- The fifty-two bits of the fraction. -/
def fractionField (x : Binary64) : Nat := x.bits.toNat % leastNormal

/-- A finite number without its sign: an integer and the exponent of the
power of two it is multiplied by. -/
def significand (x : Binary64) : Nat × Int :=
  if x.exponentField = 0 then (x.fractionField, -1074)
  else (leastNormal + x.fractionField, x.exponentField - 1075)

end Binary64

end HandlerGen
