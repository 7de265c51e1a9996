import HandlerGen.Decimal.Integer
import HandlerGen.Yaml.Token
import HandlerGen.Yaml.Token.Quoted
/-!
# Names, tags and directives

The tokens that say something about a node or about the document: the
names of anchors and aliases, tags, and the lines that start with a
percent sign. A tag is written out between angle brackets, or it is a
handle, an exclamation mark or a name between two, with a suffix; a lone
exclamation mark is a tag of its own. Percent signs in a tag spell the
bytes of its characters.
-/

namespace HandlerGen

namespace Yaml

/-- A character of the name of an anchor, a handle or a directive. -/
def isNameCharacter (c : Char) : Bool := c.isAlphanum || c == '-' || c == '_'

/-- A character of a tag that stands for itself. -/
def isTagCharacter (c : Char) : Bool :=
  c.isAlphanum || ("-;/?:@&=+$,_.!~*'()[]" : Text).contains c

/-- Whether the name of an anchor or an alias ends here. -/
def atAnchorEnd : Text → Bool
  | [] => true
  | c :: _ => isSpace c || isBreak c || ("?:,]\x7d%@`" : Text).contains c

namespace Cursor

/-- The name of an anchor or an alias behind its indicator. -/
def anchorName (c : Cursor) : Except Halt (Text × Cursor) :=
  let (name, c) := c.takeWhile isNameCharacter
  if name.isEmpty || !atAnchorEnd c.rest then c.halt .malformed else .ok (name, c)

/-- The bytes that percent signs spell from here on. -/
def percentBytes : Nat → Cursor → Except Halt (List UInt8 × Cursor)
  | 0, c => .ok ([], c)
  | fuel + 1, c =>
    match c.rest with
    | '%' :: _ => do
      let (n, c) ← Quoted.hexDigits 2 c.step
      let (bs, c) ← percentBytes fuel (c.skip 2)
      return (n.toUInt8 :: bs, c)
    | _ => .ok ([], c)

/-- The characters of a tag from here on. -/
def tagCharacters : Nat → Cursor → Except Halt (Text × Cursor)
  | 0, c => .ok ([], c)
  | fuel + 1, c =>
    match c.rest with
    | [] => .ok ([], c)
    | ch :: _ =>
      if ch = '%' then do
        let (bs, c) ← percentBytes c.rest.length c
        match String.fromUTF8? ⟨bs.toArray⟩ with
        | none => c.halt .malformed
        | some s =>
          let (t, c) ← tagCharacters fuel c
          return (s.toList ++ t, c)
      else if isTagCharacter ch then do
        let (t, c) ← tagCharacters fuel c.step
        return (ch :: t, c)
      else .ok ([], c)

/-- The characters of a tag, of which there must be one. -/
def tagUri (c : Cursor) : Except Halt (Text × Cursor) := do
  let (t, last) ← tagCharacters (c.rest.length + 1) c
  if last.index = c.index then c.halt .malformed else return (t, last)

/-- A tag handle: an exclamation mark before a space, or a name between
two. -/
def tagHandle (c : Cursor) : Except Halt (Text × Cursor) :=
  match c.rest with
  | '!' :: ' ' :: _ => .ok (['!'], c.step)
  | '!' :: _ =>
    let (name, last) := c.step.takeWhile isNameCharacter
    match last.rest with
    | '!' :: _ => .ok ('!' :: (name ++ ['!']), last.step)
    | _ => last.halt .malformed
  | _ => c.halt .malformed

/-- The handle and the suffix of a tag, from its exclamation mark on. -/
def tagParts (c : Cursor) : Except Halt ((Option Text × Text) × Cursor) :=
  match c.rest with
  | '!' :: '<' :: _ => do
    let (uri, c) ← (c.skip 2).tagUri
    match c.rest with
    | '>' :: _ => return ((none, uri), c.step)
    | _ => c.halt .malformed
  | _ :: t =>
    if atWordEnd t then .ok ((none, ['!']), c.step)
    else
      -- a second exclamation mark before the next space ends a handle
      let word := t.takeWhile fun ch => ch != ' ' && !isBreak ch
      let name := word.takeWhile (· != '!')
      let c := c.look (name.length + 2)
      if name.length < word.length then do
        let (handle, c) ← c.tagHandle
        let (suffix, c) ← c.tagUri
        return ((some handle, suffix), c)
      else do
        let (suffix, c) ← c.step.tagUri
        return ((some ['!'], suffix), c)
  | [] => c.halt .malformed

/-- The tag at a cursor. -/
def tag (c : Cursor) : Except Halt (Token × Cursor) := do
  let ((handle, suffix), c) ← c.tagParts
  if atTagEnd c.rest then return (.tag handle suffix, c) else c.halt .malformed

/-- A number of a version. -/
def versionNumber (c : Cursor) : Except Halt (Nat × Cursor) :=
  let (digits, c) := c.takeWhile Char.isDigit
  if digits.isEmpty then c.halt .malformed
  else if digitLimit < digits.length then c.halt .numberTooLong
  else .ok (digits.foldl (fun n d => 10 * n + (d.toNat - '0'.toNat)) 0, c)

/-- The directive behind a percent sign, up to what follows its last
argument. -/
def directiveParts (c : Cursor) : Except Halt (Directive × Cursor) := do
  let (name, c) := c.takeWhile isNameCharacter
  if name.isEmpty || !atTagEnd c.rest then c.halt .malformed
  else if name = "YAML".toList then
    let (major, c) ← (c.dropWhile (· == ' ')).versionNumber
    match c.rest with
    | '.' :: _ =>
      let (_, c) ← c.step.versionNumber
      if atTagEnd c.rest then return (.version major, c) else c.halt .malformed
    | _ => c.halt .malformed
  else if name = "TAG".toList then
    let (handle, c) ← (c.dropWhile (· == ' ')).tagHandle
    match c.rest with
    | ' ' :: _ =>
      let (uri, c) ← (c.dropWhile (· == ' ')).tagUri
      if atTagEnd c.rest then return (.handle handle uri, c) else c.halt .malformed
    | _ => c.halt .malformed
  else return (.unknown, c.dropWhile (!isBreak ·))

/-- The directive at a cursor, and the cursor after its line. -/
def directive (c : Cursor) : Except Halt (Token × Cursor) := do
  let (d, c) ← c.step.directiveParts
  let c := c.skipComment
  if atLineEnd c.rest then return (.directive d, c.lineBreak.2) else c.halt .malformed

end Cursor

end Yaml

end HandlerGen
