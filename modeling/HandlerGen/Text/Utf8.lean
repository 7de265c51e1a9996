import HandlerGen.Text
/-!
# UTF-8

The bytes of a text in UTF-8, read one at a time. The first byte of a
character says how many more it has and in which range the next one is,
so that no character has two spellings; all others are in the range of
continuation bytes. Bytes that are no text are read up to the first one
that is refused (`Utf8.read`): the first that does not fit the bytes
before it, or the last one of a surrogate, which is no character.
-/

namespace HandlerGen

namespace Utf8

/-- A character of which bytes are missing: how many, the range of the
next one, and the bits that have been read. -/
structure Unfinished where
  missing : Nat
  least : Nat := 0x80
  greatest : Nat := 0xBF
  bits : Nat
deriving DecidableEq, Repr

/-- What a first byte begins: a character with more bytes, one that it
spells alone, or none. -/
def start? (b : Nat) : Option (Unfinished ⊕ Char) :=
  if b ≤ 0x7F then some (.inr (Char.ofNat b))
  else if b < 0xC2 then none
  else if b ≤ 0xDF then some (.inl { missing := 1, bits := b - 0xC0 })
  else if b ≤ 0xEF then
    let p : Unfinished := { missing := 2, bits := b - 0xE0 }
    some (.inl (if b = 0xE0 then { p with least := 0xA0 } else p))
  else if b ≤ 0xF4 then
    let p : Unfinished := { missing := 3, bits := b - 0xF0 }
    some (.inl
      (if b = 0xF0 then { p with least := 0x90 }
      else if b = 0xF4 then { p with greatest := 0x8F }
      else p))
  else none

/-- What a further byte makes of a character: one with bytes that are
still missing, the character itself, or none. -/
def Unfinished.extend? (p : Unfinished) (b : Nat) : Option (Unfinished ⊕ Char) :=
  if p.least ≤ b ∧ b ≤ p.greatest then
    let bits := p.bits * 0x40 + (b - 0x80)
    if 1 < p.missing then some (.inl { missing := p.missing - 1, bits })
    else if bits.isValidChar then some (.inr (Char.ofNat bits))
    else none
  else none

/-- The bytes that have been read of a text: its characters up to the
last whole one, and how many bytes there are before the first one that
is refused, if there is one. -/
structure Reading where
  text : Text
  refused : Option Nat
deriving DecidableEq, Repr

/-- Reads bytes, the first of which has a given index and may go on with a
character. -/
def readFrom : Nat → Option Unfinished → List UInt8 → Reading
  | _, _, [] => ⟨[], none⟩
  | index, p, b :: bs =>
    match p.elim (start? b.toNat) (·.extend? b.toNat) with
    | none => ⟨[], some index⟩
    | some (.inl p) => readFrom (index + 1) (some p) bs
    | some (.inr c) =>
      let r := readFrom (index + 1) none bs
      { r with text := c :: r.text }

/-- Reads bytes from their start. -/
def read (bs : List UInt8) : Reading := readFrom 0 none bs

end Utf8

end HandlerGen
