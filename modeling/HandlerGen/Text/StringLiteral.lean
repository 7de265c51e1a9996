import HandlerGen.Text.Quoted
/-!
# String literals

The double-quoted literal that stands for a text in generated code. It
is written in printable ASCII: the quote, the backslash and five control
characters have a short escape, and every other character outside the
range from space to tilde is written by its UTF-16 units, a character
above the basic plane by a pair of them. The angle brackets, the
ampersand and the single quote are written by their units too, so that a
literal can also stand in a page of hypertext.
-/

namespace HandlerGen

namespace StringLiteral

/-- A UTF-16 unit as an escape. -/
def unit (n : Nat) : Text := '\\' :: 'u' :: hexadecimal 4 n

/-- The escape of a code point by its one or two UTF-16 units. -/
def units (n : Nat) : Text :=
  if n < 0x10000 then unit n
  else
    let m := n - 0x10000
    unit (0xD800 + m / 0x400) ++ unit (0xDC00 + m % 0x400)

/-- One character between the quotes. -/
def character (c : Char) : Text :=
  if c = '"' then ['\\', '"']
  else if c = '\\' then ['\\', '\\']
  else if c = '\n' then ['\\', 'n']
  else if c = '\r' then ['\\', 'r']
  else if c = '\t' then ['\\', 't']
  else if c = '\x08' then ['\\', 'b']
  else if c = '\x0c' then ['\\', 'f']
  else if c = '<' ∨ c = '>' ∨ c = '&' ∨ c = '\'' then unit c.toNat
  else if ' ' ≤ c ∧ c ≤ '~' then [c]
  else units c.toNat

end StringLiteral

/-- The literal that stands for a text. -/
def Text.literal (t : Text) : Text := '"' :: (t.flatMap StringLiteral.character ++ ['"'])

end HandlerGen
