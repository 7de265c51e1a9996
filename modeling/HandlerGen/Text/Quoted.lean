import HandlerGen.Text.Printable
/-!
# Quoted text

How a text or a byte string is shown inside a message. The text stands
between single quotes, or between double quotes if it holds a single
quote and no double one; the quote that is used and the backslash are
escaped, three blanks have a short escape, and a character that is not
printable is written by its code point in two, four or eight lower-case
hexadecimal digits.
-/

namespace HandlerGen

/-- A number in lower-case hexadecimal, with noughts in front up to the
width. -/
def hexadecimal (width n : Nat) : Text := (Nat.toDigits 16 n).leftpad width '0'

namespace Quoted

/-- The quote for a text: double only if the text holds a single quote
and no double one. -/
def mark (t : Text) : Char := if t.contains '\'' && !t.contains '"' then '"' else '\''

/-- The short escapes, the same in texts and byte strings. -/
def short? (quote c : Char) : Option Text :=
  if c = quote ∨ c = '\\' then some ['\\', c]
  else if c = '\n' then some ['\\', 'n']
  else if c = '\r' then some ['\\', 'r']
  else if c = '\t' then some ['\\', 't']
  else none

/-- One character between the quotes. -/
def character (quote c : Char) : Text :=
  match short? quote c with
  | some t => t
  | none =>
    if isPrintable c then [c]
    else if c.toNat < 0x100 then '\\' :: 'x' :: hexadecimal 2 c.toNat
    else if c.toNat < 0x10000 then '\\' :: 'u' :: hexadecimal 4 c.toNat
    else '\\' :: 'U' :: hexadecimal 8 c.toNat

/-- One byte between the quotes. -/
def byte (quote : Char) (b : UInt8) : Text :=
  let c := Char.ofNat b.toNat
  match short? quote c with
  | some t => t
  | none => if 0x20 ≤ b ∧ b < 0x7F then [c] else '\\' :: 'x' :: hexadecimal 2 b.toNat

end Quoted

/-- A text between quotes. -/
def Text.quoted (t : Text) : Text :=
  let q := Quoted.mark t
  q :: (t.flatMap (Quoted.character q) ++ [q])

/-- A byte string between quotes, with the mark that tells it from a
text. -/
def quotedBytes (bs : List UInt8) : Text :=
  let q := Quoted.mark (bs.map fun b => Char.ofNat b.toNat)
  'b' :: q :: (bs.flatMap (Quoted.byte q) ++ [q])

end HandlerGen
