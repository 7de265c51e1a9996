import HandlerGen.Yaml.Cursor
/-!
# Plain scalars

A scalar without quotes is a row of words. A word ends at a blank, at
the end of the line, at a colon that ends a word, and inside a flow
collection at the indicators of one. Between two words of a line stand
spaces, which are kept; between two lines one line end is a space and
each further one a line feed. The row ends at a comment, at a document
marker, and outside flow collections where a line is not indented deep
enough.
-/

namespace HandlerGen

namespace Yaml

namespace Plain

/-- An indicator that ends a word inside a flow collection. -/
def isFlowIndicator (c : Char) : Bool :=
  c == ',' || c == '?' || c == '[' || c == ']' || c == '\x7b' || c == '\x7d'

/-- Whether a rest after a colon makes the colon an indicator. -/
def afterColon (flow : Bool) : Text → Bool
  | [] => true
  | c :: _ => isSpace c || isBreak c || (flow && c != '?' && isFlowIndicator c)

/-- The word at the start of a text. -/
def word (flow : Bool) : Text → Text
  | [] => []
  | c :: t =>
    if isSpace c || isBreak c || (c == ':' && afterColon flow t) || (flow && isFlowIndicator c) then
      []
    else c :: word flow t

/-- The line ends and spaces up to the next word, without the first line
end. At a document marker there is no next word. -/
def furtherBreaks : Nat → Cursor → Option Text × Cursor
  | 0, c => (some [], c)
  | fuel + 1, c =>
    match c.rest with
    | ' ' :: _ => furtherBreaks fuel c.step
    | ch :: _ =>
      if isBreak ch then
        let (b, c) := c.lineBreak
        let c := c.lookForMarker
        if atDocumentMarker c.rest then (none, c)
        else
          let (bs, c) := furtherBreaks fuel c
          (bs.map (b ++ ·), c)
      else (some [], c)
    | [] => (some [], c)

/-- What stands between a word and the next one, as it counts in the
scalar, the cursor after it, and whether a line ended. Nothing means
that the scalar ends. -/
def gap (c : Cursor) : Text × Cursor × Bool :=
  let (spaces, c) := c.takeWhile (· == ' ')
  if atLineEnd c.rest && !c.rest.isEmpty then
    let (b, c) := c.lineBreak
    let c := c.lookForMarker
    if atDocumentMarker c.rest then ([], c, true)
    else
      match furtherBreaks c.rest.length c with
      | (none, c) => ([], c, true)
      | (some bs, c) =>
        -- only a line feed folds, the Unicode separators are kept
        (if b ≠ ['\n'] then b ++ bs else if bs.isEmpty then [' '] else bs, c, true)
  else (spaces, c, false)

/-- Looks at what follows a colon, which decides whether the colon is an
indicator. -/
def lookBehindColon (c : Cursor) : Cursor :=
  match c.rest with
  | ':' :: _ => c.look 2
  | _ => c

/-- Whether the row goes on after a gap. -/
def goesOn (flow : Bool) (indent : Int) (between : Text) (c : Cursor) : Bool :=
  !between.isEmpty && c.rest.head? != some '#' && (flow || indent ≤ c.column)

/-- The scalar from here on, the cursor after it, and whether a line
ended since its last word. -/
def read (flow : Bool) (indent : Int) : Nat → Cursor → Text × Cursor × Bool
  | 0, c => ([], c, false)
  | fuel + 1, c =>
    let w := word flow c.rest
    let (between, next, ended) := gap (lookBehindColon (c.skip w.length))
    if goesOn flow indent between next then
      if (word flow next.rest).isEmpty then (w, lookBehindColon next, ended)
      else
        let (t, last, ended) := read flow indent fuel next
        (w ++ between ++ t, last, ended)
    else (w, next, ended)

end Plain

/-- The plain scalar at a cursor: its text, the cursor after it, and
whether a line ended since its last word. -/
def Cursor.plain (c : Cursor) (flow : Bool) (indent : Int) : Text × Cursor × Bool :=
  Plain.read flow indent c.rest.length c

end Yaml

end HandlerGen
