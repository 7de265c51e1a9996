import HandlerGen.Yaml.Fault
import HandlerGen.Text
/-!
# Base 64

The bytes of a binary scalar. Every four letters of the alphabet spell
three bytes, and other characters do not count. Equal signs fill up the
last group; once it is full, reading stops. A group of letters that is
not filled up is a fault.
-/

namespace HandlerGen

namespace Yaml

namespace Base64

/-- The six bits of a letter. -/
def letter? (c : Char) : Option Nat :=
  if 'A' ≤ c ∧ c ≤ 'Z' then some (c.toNat - 'A'.toNat)
  else if 'a' ≤ c ∧ c ≤ 'z' then some (c.toNat - 'a'.toNat + 26)
  else if '0' ≤ c ∧ c ≤ '9' then some (c.toNat - '0'.toNat + 52)
  else if c = '+' then some 62
  else if c = '/' then some 63
  else none

/-- The bytes of the rest, when `count` letters of a group have been
read that leave the bits `left`, and `fill` equal signs after them. -/
def decodeFrom : Nat → Nat → Nat → Text → Option (List UInt8)
  | count, _, _, [] => if count = 0 then some [] else none
  | count, left, fill, c :: t =>
    if c = '=' then
      if 2 ≤ count then
        -- with this sign the group is full
        if 4 ≤ count + fill + 1 then some [] else decodeFrom count left (fill + 1) t
      else decodeFrom count left fill t
    else
      match letter? c with
      | none => decodeFrom count left fill t
      | some bits =>
        match count with
        | 0 => decodeFrom 1 bits 0 t
        | 1 => (decodeFrom 2 (bits % 16) 0 t).map ((left * 4 + bits / 16).toUInt8 :: ·)
        | 2 => (decodeFrom 3 (bits % 4) 0 t).map ((left * 16 + bits / 4).toUInt8 :: ·)
        | _ => (decodeFrom 0 0 0 t).map ((left * 64 + bits).toUInt8 :: ·)

/-- The bytes of a binary scalar, whose text is in ASCII. -/
def decode (t : Text) : Except Fault (List UInt8) :=
  if t.all (·.toNat < 0x80) then (decodeFrom 0 0 0 t).elim (.error .malformed) .ok
  else .error .malformed

end Base64

end Yaml

end HandlerGen
