import HandlerGen.Yaml.Cursor
import HandlerGen.Yaml.Fault
/-!
# Quoted scalars

A scalar between single or double quotes may go over several lines,
whose indentation is free. The blanks around a line end are dropped; one
line end is a space, and each further one a line feed. Between single
quotes a quote is written twice, and nothing else is special. Between
double quotes a backslash starts an escape: one of the short ones, a
code point in two, four or eight hexadecimal digits, or a line end that
does not count.
-/

namespace HandlerGen

namespace Yaml

namespace Quoted

/-- The character of a short escape. -/
def shortEscape? (c : Char) : Option Char :=
  [('0', '\x00'), ('a', '\x07'), ('b', '\x08'), ('t', '\t'), ('\t', '\t'), ('n', '\n'),
    ('v', '\x0b'), ('f', '\x0c'), ('r', '\r'), ('e', '\x1b'), (' ', ' '), ('"', '"'),
    ('\\', '\\'), ('/', '/'), ('N', '\x85'), ('_', '\xa0'), ('L', '\u2028'),
    ('P', '\u2029')].lookup c

/-- The count of digits of a code point escape. -/
def escapeWidth? (c : Char) : Option Nat :=
  if c = 'x' then some 2 else if c = 'u' then some 4 else if c = 'U' then some 8 else none

/-- The value of a hexadecimal digit. -/
def hexDigit? (c : Char) : Option Nat :=
  if '0' ≤ c ∧ c ≤ '9' then some (c.toNat - '0'.toNat)
  else if 'a' ≤ c ∧ c ≤ 'f' then some (c.toNat - 'a'.toNat + 10)
  else if 'A' ≤ c ∧ c ≤ 'F' then some (c.toNat - 'A'.toNat + 10)
  else none

/-- The number that hexadecimal digits spell, added to what was read
before them. -/
def hexNumber : Nat → Text → Nat
  | acc, [] => acc
  | acc, c :: t => hexNumber (16 * acc + (hexDigit? c).getD 0) t

/-- The number that so many hexadecimal digits spell from here on. -/
def hexDigits (width : Nat) (c : Cursor) : Except Halt (Nat × Cursor) :=
  let digits := (c.rest.take width).takeWhile fun d => (hexDigit? d).isSome
  if digits.length = width then .ok (hexNumber 0 digits, c.look width)
  -- the first character that is no digit stops it
  else (c.look (digits.length + 1)).halt .malformed

/-- The character of a code point. One half of a surrogate pair has a
code point and is no character, so that no text holds it. -/
def character (n : Nat) : Except Fault Char :=
  if n < 0x110000 then
    if 0xD800 ≤ n ∧ n ≤ 0xDFFF then .error .surrogate else .ok (Char.ofNat n)
  else if n < 0x80000000 then .error .codePointTooLarge
  else .error .codePointOverflow

/-- The line ends after the first one, with the blanks around them
dropped. No document marker may stand at the start of a line. -/
def furtherBreaks : Nat → Cursor → Except Halt (Text × Cursor)
  | 0, c => c.halt .malformed
  | fuel + 1, c =>
    let c := c.lookForMarker
    if atDocumentMarker c.rest then c.halt .malformed
    else
      let c := c.dropWhile isSpace
      match c.lineBreak with
      | ([], c) => .ok ([], c)
      | (b, c) => do
        let (bs, c) ← furtherBreaks fuel c
        return (b ++ bs, c)

/-- The blanks from here on as they count in the scalar, and the cursor
after them. -/
def gap (c : Cursor) : Except Halt (Text × Cursor) :=
  let (blanks, c) := c.takeWhile isSpace
  if c.rest.isEmpty then c.halt .malformed
  else
    match c.lineBreak with
    | ([], c) => .ok (blanks, c)
    | (b, c) => do
      let (bs, c) ← furtherBreaks (c.rest.length + 1) c
      return (if b ≠ ['\n'] then b ++ bs else if bs.isEmpty then [' '] else bs, c)

/-- The escape after a backslash: what it stands for and the cursor
after it. -/
def escape (c : Cursor) : Except Halt (Text × Cursor) :=
  match c.rest with
  | [] => c.halt .malformed
  | ch :: _ =>
    match shortEscape? ch, escapeWidth? ch with
    | some d, _ => .ok ([d], c.step)
    | none, some width => do
      let (n, c) ← hexDigits width c.step
      match character n with
      | .error e => c.halt e
      | .ok d => return ([d], c.skip width)
    | none, none =>
      match c.lineBreak with
      | ([], _) => c.halt .malformed
      -- the line end that is escaped joins the lines without a space
      | (_, c) => furtherBreaks (c.rest.length + 1) c

/-- The scalar after its first quote: its text and the cursor after the
last quote. -/
def read (quote : Char) : Nat → Cursor → Except Halt (Text × Cursor)
  | 0, c => c.halt .malformed
  | fuel + 1, c =>
    match c.rest with
    | [] => c.halt .malformed
    | ch :: t =>
      if ch = quote then
        if quote = '\'' ∧ t.head? = some '\'' then do
          let (u, last) ← read quote fuel (c.skip 2)
          return ('\'' :: u, last)
        else .ok ([], c.step)
      else if ch = '\\' ∧ quote = '"' then do
        let (e, c) ← escape c.step
        let (u, last) ← read quote fuel c
        return (e ++ u, last)
      else if isSpace ch || isBreak ch then do
        let (g, c) ← gap c
        let (u, last) ← read quote fuel c
        return (g ++ u, last)
      else do
        let (u, last) ← read quote fuel c.step
        return (ch :: u, last)

end Quoted

/-- The quoted scalar at a cursor, which stands at the quote. -/
def Cursor.quoted (c : Cursor) (quote : Char) : Except Halt (Text × Cursor) :=
  Quoted.read quote c.rest.length c.step

end Yaml

end HandlerGen
