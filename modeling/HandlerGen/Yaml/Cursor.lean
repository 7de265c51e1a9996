import HandlerGen.Text
import HandlerGen.Yaml.Fault
/-!
# Reading positions

A cursor is the rest of a text with the place it starts at: how many
characters are before it, on which line it is, and in which column. Line
feeds, next-line characters and the two Unicode separators end a line.
The byte order mark has no width, so it does not move the column.

A cursor also knows how far the text has been looked at: up to its own
first character at least, and further where what comes next decided what
was read. The end of the text counts as a character here.
-/

namespace HandlerGen

namespace Yaml

/-- A character that ends a line. -/
def isBreak (c : Char) : Bool := c == '\n' || c == '\x85' || c == '\u2028' || c == '\u2029'

/-- A character that separates words. -/
def isSpace (c : Char) : Bool := c == ' ' || c == '\t'

/-- Whether a rest is at the end of its line or of the text. -/
def atLineEnd : Text → Bool
  | [] => true
  | c :: _ => isBreak c

/-- Whether a rest is at the end of a word: at a blank, or at the end of
the line. -/
def atWordEnd : Text → Bool
  | [] => true
  | c :: _ => isSpace c || isBreak c

/-- Whether a rest is at the end of a tag, which a tab does not end. -/
def atTagEnd : Text → Bool
  | [] => true
  | c :: _ => c == ' ' || isBreak c

/-- The rest after a document marker: three hyphens or three points, and
the end of the word. -/
def atMarker (mark : Char) : Text → Bool
  | a :: b :: c :: t => a == mark && b == mark && c == mark && atWordEnd t
  | _ => false

/-- Whether a rest is at a marker that starts or ends a document. -/
def atDocumentMarker (t : Text) : Bool := atMarker '-' t || atMarker '.' t

/-- The rest of a text and the place it starts at. -/
structure Cursor where
  rest : Text
  index : Nat := 0
  line : Nat := 0
  column : Nat := 0
  /-- How many characters of the text have been looked at. -/
  reach : Nat := 1
deriving DecidableEq, Repr

namespace Cursor

/-- Looks at so many characters from here on. -/
def look (c : Cursor) (n : Nat) : Cursor := { c with reach := max c.reach (c.index + n) }

/-- Looks for a document marker: at three characters, and if they are all
hyphens or all points, at the one after them. -/
def lookForMarker (c : Cursor) : Cursor :=
  let mark := c.rest.take 3
  c.look (if mark = ['-', '-', '-'] ∨ mark = ['.', '.', '.'] then 4 else 3)

/-- Stops the reading of the text here. -/
def halt {α : Type} (c : Cursor) (e : Fault) : Except Halt α := .error ⟨e, c.reach⟩

/-- The cursor after one character, which looks at the next one. At the
end of the text it stays. -/
def step (c : Cursor) : Cursor :=
  match c.rest with
  | [] => c
  | ch :: t =>
    let reach := max c.reach (c.index + 2)
    if isBreak ch then ⟨t, c.index + 1, c.line + 1, 0, reach⟩
    else if ch = '\uFEFF' then ⟨t, c.index + 1, c.line, c.column, reach⟩
    else ⟨t, c.index + 1, c.line, c.column + 1, reach⟩

/-- A step leaves the text behind its first character. -/
theorem rest_step (c : Cursor) : c.step.rest = c.rest.tail := by
  unfold step
  split
  · next h => rw [h, List.tail_nil]
  · next h => split <;> (try split) <;> rw [h, List.tail_cons]

/-- The cursor after a number of characters. -/
def skip (c : Cursor) : Nat → Cursor
  | 0 => c
  | n + 1 => c.step.skip n

/-- Skipping leaves the text behind so many characters. -/
theorem rest_skip (c : Cursor) (n : Nat) : (c.skip n).rest = c.rest.drop n := by
  induction n generalizing c with
  | zero => rw [skip, List.drop_zero]
  | succ n ih => rw [skip, ih, rest_step, List.drop_tail]

/-- The characters from here on that pass a test, and the cursor after
them. -/
def takeWhile (c : Cursor) (p : Char → Bool) : Text × Cursor :=
  let t := c.rest.takeWhile p
  (t, c.skip t.length)

/-- The cursor after the characters from here on that pass a test. -/
def dropWhile (c : Cursor) (p : Char → Bool) : Cursor := (c.takeWhile p).2

/-- The end of the line as it counts in a scalar, and the cursor after
it. The next-line character counts as a line feed, and where no line
ends nothing is read. -/
def lineBreak (c : Cursor) : Text × Cursor :=
  match c.rest with
  | [] => ([], c)
  | ch :: _ =>
    if ch = '\n' ∨ ch = '\x85' then (['\n'], c.step)
    else if isBreak ch then ([ch], c.step)
    else ([], c)

/-- The cursor after the spaces and the comment that may close a line. -/
def skipComment (c : Cursor) : Cursor :=
  let c := c.dropWhile (· == ' ')
  match c.rest with
  | '#' :: _ => c.dropWhile (!isBreak ·)
  | _ => c

end Cursor

end Yaml

end HandlerGen
