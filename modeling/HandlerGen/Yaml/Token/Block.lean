import HandlerGen.Yaml.Cursor
import HandlerGen.Yaml.Fault
/-!
# Block scalars

A scalar after a bar or an angle bracket is the lines that are indented
deeper than the block it stands in. Its indentation is given by a digit
in the header, or else it is the deepest column that leading spaces
reach up to the first line of text. Literal scalars keep their line
ends; in folded ones a line end between two lines that start with text
is a space, or nothing if empty lines follow. Of the line ends after the
text the first is kept unless the header says to strip, and the others
only if it says to keep.
-/

namespace HandlerGen

namespace Yaml

namespace Block

/-- What becomes of the line ends after the text. -/
inductive Chomping
  | strip
  | clip
  | keep
deriving DecidableEq, Repr

/-- The chomping that an indicator asks for. -/
def chomping? (c : Char) : Option Chomping :=
  if c = '+' then some .keep else if c = '-' then some .strip else none

/-- The chomping indicator at a cursor, if there is one. -/
def readChomping (c : Cursor) : Option Chomping × Cursor :=
  match c.rest.head?.bind chomping? with
  | some k => (some k, c.step)
  | none => (none, c)

/-- The indentation digit at a cursor, if there is one. Nought is no
indentation. -/
def readIndentation (c : Cursor) : Except Halt (Option Nat × Cursor) :=
  match c.rest with
  | [] => .ok (none, c)
  | ch :: _ =>
    if ch = '0' then c.halt .malformed
    else if '1' ≤ ch ∧ ch ≤ '9' then .ok (some (ch.toNat - '0'.toNat), c.step)
    else .ok (none, c)

/-- The header from behind the indicator to the end of its line. The two
parts stand in either order, and a space comes before a comment. -/
def readHeader (c : Cursor) : Except Halt (Chomping × Option Nat × Cursor) := do
  let (before, c) := readChomping c
  let (indentation, c) ← readIndentation c
  let (chomping, c) :=
    match before, indentation with
    | none, some _ => readChomping c
    | _, _ => (before, c)
  if !atTagEnd c.rest then c.halt .malformed
  else
    let c := c.skipComment
    if !atLineEnd c.rest then c.halt .malformed
    else return (chomping.getD .clip, indentation, c.lineBreak.2)

/-- The line ends before the first line of text, the deepest column that
spaces reach, and the cursor after them. -/
def measure : Nat → Nat → Cursor → Text × Nat × Cursor
  | 0, deepest, c => ([], deepest, c)
  | fuel + 1, deepest, c =>
    match c.rest with
    | ' ' :: _ => measure fuel (max deepest (c.column + 1)) c.step
    | _ =>
      match c.lineBreak with
      | ([], c) => ([], deepest, c)
      | (b, c) =>
        let (bs, deepest, c) := measure fuel deepest c
        (b ++ bs, deepest, c)

/-- The cursor after the spaces up to a column. -/
def indentTo (indent : Nat) : Nat → Cursor → Cursor
  | 0, c => c
  | fuel + 1, c =>
    match c.rest with
    | ' ' :: _ => if c.column < indent then indentTo indent fuel c.step else c
    | _ => c

/-- The empty lines from here on, and the cursor at the indentation of
the line after them. -/
def emptyLines (indent : Nat) : Nat → Cursor → Text × Cursor
  | 0, c => ([], c)
  | fuel + 1, c =>
    let c := indentTo indent indent c
    match c.lineBreak with
    | ([], c) => ([], c)
    | (b, c) =>
      let (bs, c) := emptyLines indent fuel c
      (b ++ bs, c)

/-- A scalar that has been read: its lines with the line ends between
them, the end of the last line, the line ends after it, and the cursor
at which it ends. -/
structure Content where
  lines : Text
  lastBreak : Text
  trailing : Text
  cursor : Cursor

/-- Whether a line of text starts here. -/
def atLine (indent : Nat) (c : Cursor) : Bool := c.column == indent && !c.rest.isEmpty

/-- Whether a line starts with a blank. -/
def startsBlank (t : Text) : Bool := t.head?.any isSpace

/-- What joins a line of text to the next one. -/
def join (folded : Bool) (line lineEnd further next : Text) : Text :=
  if folded && lineEnd == ['\n'] && !startsBlank line && !startsBlank next then
    if further.isEmpty then [' '] else []
  else lineEnd

/-- The lines from here on, with the line ends that come before them. -/
def readLines (folded : Bool) (indent : Nat) : Nat → Text → Cursor → Content
  | 0, before, c => ⟨[], [], before, c⟩
  | fuel + 1, before, c =>
    if atLine indent c then
      let (line, next) := c.takeWhile (!isBreak ·)
      let (lineEnd, next) := next.lineBreak
      let (further, next) := emptyLines indent (next.rest.length + 1) next
      if atLine indent next then
        let r := readLines folded indent fuel further next
        { r with lines := before ++ line ++ join folded c.rest lineEnd further next.rest
                   ++ r.lines }
      else ⟨before ++ line, lineEnd, further, next⟩
    else ⟨[], [], before, c⟩

/-- The text of a scalar, by what becomes of the line ends after it. -/
def Content.text (r : Content) : Chomping → Text
  | .strip => r.lines
  | .clip => r.lines ++ r.lastBreak
  | .keep => r.lines ++ r.lastBreak ++ r.trailing

end Block

/-- The block scalar at a cursor, which stands at its indicator, inside
a block of the given indentation. -/
def Cursor.block (c : Cursor) (folded : Bool) (parent : Int) : Except Halt (Text × Cursor) := do
  let (chomping, indentation, c) ← Block.readHeader c.step
  -- outside all blocks the text is indented by a column at least
  let least := max 1 (parent + 1).toNat
  let (before, indent, c) :=
    match indentation with
    | none =>
      let (before, deepest, c) := Block.measure c.rest.length 0 c
      (before, max least deepest, c)
    | some n =>
      -- the digit counts from the column of the block around
      let indent := least + n - 1
      let (before, c) := Block.emptyLines indent (c.rest.length + 1) c
      (before, indent, c)
  let r := Block.readLines folded indent (c.rest.length + 1) before c
  return (r.text chomping, r.cursor)

end Yaml

end HandlerGen
