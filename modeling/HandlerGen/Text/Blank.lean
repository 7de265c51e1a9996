import HandlerGen.Text
/-!
# Blank characters

The Unicode white space of the handler format: the ASCII blanks and the
four information separators, the next-line and no-break characters, and
the spaces and separators of the general punctuation block. A text is
*blank* when it holds nothing else. The zero-width space, the Mongolian
vowel separator and the byte order mark are no white space.
-/

namespace HandlerGen

/-- The white space characters above ASCII. -/
def blankAboveAscii : List Nat :=
  [0x85, 0xA0, 0x1680, 0x2000, 0x2001, 0x2002, 0x2003, 0x2004, 0x2005, 0x2006, 0x2007, 0x2008,
    0x2009, 0x200A, 0x2028, 0x2029, 0x202F, 0x205F, 0x3000]

/-- Whether a character is white space. -/
def isBlank (c : Char) : Bool :=
  let n := c.toNat
  if n < 0x80 then n == 0x20 || (0x09 ≤ n && n ≤ 0x0D) || (0x1C ≤ n && n ≤ 0x1F)
  else blankAboveAscii.contains n

namespace Text

/-- A text without a character that shows. -/
def isBlank (t : Text) : Bool := t.all HandlerGen.isBlank

/-- A text less the white space at its end. -/
def trimEnd : Text → Text
  | [] => []
  | c :: t =>
    match trimEnd t with
    | [] => if HandlerGen.isBlank c then [] else [c]
    | d :: u => c :: d :: u

end Text

end HandlerGen
