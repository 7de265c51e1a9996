import HandlerGen.Yaml.Token.Block
import HandlerGen.Yaml.Token.Plain
import HandlerGen.Yaml.Token.Property
/-!
# From text to tokens

The lexer reads a text token by token (`Lexer.next`). It follows the
indentation of block collections, and opens and closes them with tokens
of their own; inside flow collections indentation does not count.

A key without an indicator is recognised late, by the colon after it. So
the place of each token that may turn out to be a key is kept
(`PendingKey`), one for every flow collection that is open; a colon puts
the `key` token there. The key must lie on one line and be short. Where
a line of a block mapping must start with a key, a token that turns out
to be none is a fault.

The tokens are read ahead of their use only as far as a pending key
demands: a token is settled when no key can come before it any more.
With each settled token goes how far the text had been looked at by then
(`Lexer.Output`).
-/

namespace HandlerGen

namespace Yaml

/-- A token that is a key if a colon follows. -/
structure PendingKey where
  /-- How many tokens stand before it. -/
  place : Nat
  /-- Whether the line must start with a key. -/
  required : Bool
  index : Nat
  line : Nat
  column : Nat
deriving DecidableEq, Repr

/-- The state of reading tokens. -/
structure Lexer where
  cursor : Cursor
  /-- The tokens that are settled, the last one first, with how far the
  text had been looked at when they were. -/
  settled : List (Token × Nat) := []
  /-- The tokens from the first pending key on, the last one first. -/
  held : List Token := []
  /-- How many tokens there are. -/
  count : Nat := 0
  /-- The column of the innermost block collection. -/
  indent : Int := -1
  /-- The columns of the block collections around it, innermost first. -/
  outerIndents : List Int := []
  /-- Whether a key may start here. -/
  keyAllowed : Bool := true
  /-- The pending key of the innermost flow collection. -/
  pending : Option PendingKey := none
  /-- The pending keys of the flow collections around it, and of the
  block they stand in. -/
  outerPending : List (Option PendingKey) := []

namespace Lexer

/-- What reading a text has given: the settled tokens, and what is met
when a token after the last one is asked for. -/
structure Output where
  tokens : List (Token × Nat)
  halt : Halt

/-- Whether the lexer is inside a flow collection. -/
def inFlow (s : Lexer) : Bool := !s.outerPending.isEmpty

/-- The longest key in characters. -/
def keyLimit : Nat := 1024

/-! ## Pending keys -/

/-- Forgets a pending key. One that is required must not be lost. -/
def dropPending (c : Cursor) : Option PendingKey → Except Halt (Option PendingKey)
  | some k => if k.required then c.halt .malformed else .ok none
  | none => .ok none

/-- Forgets the pending key of the innermost collection. -/
def forgetKey (s : Lexer) : Except Halt Lexer := do
  return { s with pending := ← dropPending s.cursor s.pending }

/-- A pending key, unless its line has ended or it has become too
long. -/
def refresh (c : Cursor) : Option PendingKey → Except Halt (Option PendingKey)
  | some k =>
    if k.line ≠ c.line ∨ keyLimit < c.index - k.index then dropPending c (some k) else .ok (some k)
  | none => .ok none

/-- The pending keys of several collections, each refreshed. -/
def refreshAll (c : Cursor) : List (Option PendingKey) → Except Halt (List (Option PendingKey))
  | [] => .ok []
  | p :: ps => do
    let ps ← refreshAll c ps
    return (← refresh c p) :: ps

/-- Forgets the keys that can no longer become one. -/
def forgetStaleKeys (s : Lexer) : Except Halt Lexer := do
  let outerPending ← refreshAll s.cursor s.outerPending
  let pending ← refresh s.cursor s.pending
  return { s with outerPending, pending }

/-- Notes that the token to come may be a key. -/
def noteKey (s : Lexer) : Except Halt Lexer :=
  if s.keyAllowed then do
    let s ← s.forgetKey
    let c := s.cursor
    -- at the column of a block mapping the line must start with a key
    let required := !s.inFlow && s.indent == c.column
    return { s with pending := some ⟨s.count, required, c.index, c.line, c.column⟩ }
  else .ok s

/-- The first place of a pending key, if there is one. -/
def firstPending (s : Lexer) : Option Nat :=
  (s.pending :: s.outerPending).foldl
    (fun least p =>
      match least, p with
      | some n, some k => some (min n k.place)
      | none, some k => some k.place
      | least, none => least) none

/-- Settles the tokens before the first pending key, once the keys are
forgotten that can no longer become one. -/
def settle (s : Lexer) : Except Halt Lexer := do
  let s ← s.forgetStaleKeys
  let waiting := s.count - s.firstPending.getD s.count
  let ready := s.held.drop waiting
  return { s with
    settled := ready.map (fun t => (t, s.cursor.reach)) ++ s.settled
    held := s.held.take waiting }

/-! ## Tokens and indentation -/

/-- Adds a token. -/
def emit (s : Lexer) (t : Token) : Lexer := { s with held := t :: s.held, count := s.count + 1 }

/-- Puts a token at a place among those that are not settled. -/
def emitAt (s : Lexer) (place : Nat) (t : Token) : Lexer :=
  { s with held := s.held.insertIdx (s.count - place) t, count := s.count + 1 }

/-- Closes the block collections that are deeper than a column. -/
def closeDeeper (column : Int) (s : Lexer) : List Int → Lexer
  | [] => s
  | outer :: outers =>
    if column < s.indent then
      closeDeeper column { s.emit .blockEnd with indent := outer, outerIndents := outers } outers
    else s

/-- Closes the block collections that are deeper than a column, outside
flow collections. -/
def unwind (s : Lexer) (column : Int) : Lexer :=
  if s.inFlow then s else closeDeeper column s s.outerIndents

/-- Whether a column opens a block collection. -/
def opensBlock (s : Lexer) (column : Nat) : Bool := s.indent < column

/-- Makes a column the innermost indentation. -/
def pushIndent (s : Lexer) (column : Nat) : Lexer :=
  { s with indent := column, outerIndents := s.indent :: s.outerIndents }

/-- Opens a block collection at the cursor, if it is deeper than the
innermost one. -/
def openBlock (s : Lexer) (t : Token) : Lexer :=
  if s.opensBlock s.cursor.column then (s.pushIndent s.cursor.column).emit t else s

/-- Adds a token that so many characters spell. -/
def take (s : Lexer) (n : Nat) (t : Token) : Lexer := { s.emit t with cursor := s.cursor.skip n }

/-- Adds a token that has been read. -/
def put (s : Lexer) (r : Except Halt (Token × Cursor)) : Except Halt Lexer := do
  let (t, cursor) ← r
  return { s.emit t with cursor }

/-! ## One token -/

/-- The cursor at the next token: spaces, comments and line ends are
skipped. After a line end a key may start, outside flow collections. -/
def skipBlanks : Nat → Lexer → Lexer
  | 0, s => s
  | fuel + 1, s =>
    let c := s.cursor.skipComment
    match c.lineBreak with
    | ([], c) => { s with cursor := c }
    -- a line has ended
    | (_, c) => skipBlanks fuel { s with cursor := c, keyAllowed := s.keyAllowed || !s.inFlow }

/-- The cursor after a byte order mark at the start of the text. -/
def skipMark (s : Lexer) : Lexer :=
  match s.cursor.index, s.cursor.rest with
  | 0, '\uFEFF' :: _ => { s with cursor := s.cursor.step }
  | _, _ => s

/-- A token that stands alone on the outermost level: the marker of a
document or a directive. -/
def closeAll (s : Lexer) : Except Halt Lexer := do
  let s ← (s.unwind (-1)).forgetKey
  return { s with keyAllowed := false }

/-- A marker of a document. -/
def marker (s : Lexer) (t : Token) : Except Halt Lexer := do
  return (← s.closeAll).take 3 t

/-- A directive. -/
def directive (s : Lexer) : Except Halt Lexer := do
  let s ← s.closeAll
  s.put s.cursor.directive

/-- The start of a flow collection, which may itself be a key. -/
def openFlow (s : Lexer) (t : Token) : Except Halt Lexer := do
  let s ← s.noteKey
  let s := { s with outerPending := s.pending :: s.outerPending, pending := none, keyAllowed := true }
  return s.take 1 t

/-- The end of a flow collection, which must have been opened. -/
def closeFlow (s : Lexer) (t : Token) : Except Halt Lexer := do
  let s ← s.forgetKey
  match s.outerPending with
  | [] => s.cursor.step.halt .malformed
  | p :: ps => return { s with outerPending := ps, pending := p, keyAllowed := false }.take 1 t

/-- The comma between the entries of a flow collection. -/
def flowEntry (s : Lexer) : Except Halt Lexer := do
  let s ← s.forgetKey
  return { s with keyAllowed := true }.take 1 .flowEntry

/-- The hyphen before an entry of a block sequence. -/
def blockEntry (s : Lexer) : Except Halt Lexer :=
  if s.inFlow then do
    -- no node starts with it there, which the reader of nodes finds out
    let s ← s.forgetKey
    return { s with keyAllowed := true }.take 1 .blockEntry
  else if s.keyAllowed then do
    let s ← (s.openBlock .blockSequenceStart).forgetKey
    return { s with keyAllowed := true }.take 1 .blockEntry
  else s.cursor.halt .malformed

/-- The question mark before a key. -/
def explicitKey (s : Lexer) : Except Halt Lexer :=
  if s.inFlow then do
    let s ← s.forgetKey
    return { s with keyAllowed := false }.take 1 .key
  else if s.keyAllowed then do
    let s ← (s.openBlock .blockMappingStart).forgetKey
    return { s with keyAllowed := true }.take 1 .key
  else s.cursor.halt .malformed

/-- The colon before a value. It makes a key of a pending one; without
one it must stand where a key may. -/
def valueIndicator (s : Lexer) : Except Halt Lexer :=
  match s.pending with
  | some k =>
    let s := { s with pending := none }.emitAt k.place .key
    -- the first key of a block mapping opens it, at its own column
    let s :=
      if !s.inFlow && s.opensBlock k.column then
        (s.pushIndent k.column).emitAt k.place .blockMappingStart
      else s
    .ok ({ s with keyAllowed := false }.take 1 .value)
  | none =>
    if s.inFlow then .ok ({ s with keyAllowed := false }.take 1 .value)
    else if s.keyAllowed then
      .ok ({ s.openBlock .blockMappingStart with keyAllowed := true }.take 1 .value)
    else s.cursor.halt .malformed

/-- An alias or an anchor. -/
def named (s : Lexer) (t : Text → Token) : Except Halt Lexer := do
  let s ← s.noteKey
  { s with keyAllowed := false }.put (s.cursor.step.anchorName.map fun (n, c) => (t n, c))

/-- A tag. -/
def tag (s : Lexer) : Except Halt Lexer := do
  let s ← s.noteKey
  { s with keyAllowed := false }.put s.cursor.tag

/-- A block scalar. -/
def block (s : Lexer) (folded : Bool) : Except Halt Lexer := do
  let s ← s.forgetKey
  let r := s.cursor.block folded s.indent
  { s with keyAllowed := true }.put (r.map fun (t, c) => (.scalar t false, c))

/-- A quoted scalar. -/
def quoted (s : Lexer) (quote : Char) : Except Halt Lexer := do
  let s ← s.noteKey
  let r := s.cursor.quoted quote
  { s with keyAllowed := false }.put (r.map fun (t, c) => (.scalar t false, c))

/-- A plain scalar. After a line end within or behind it a key may
start. -/
def plain (s : Lexer) : Except Halt Lexer := do
  let s ← s.noteKey
  let (t, cursor, keyAllowed) := s.cursor.plain s.inFlow (s.indent + 1)
  return { s.emit (.scalar t true) with cursor, keyAllowed }

/-- Whether a plain scalar may start with a character before a rest. -/
def startsPlain (s : Lexer) (ch : Char) (t : Text) : Bool :=
  if ("-?:,[]\x7b\x7d#&*!|>'\"%@`" : Text).contains ch || isSpace ch || isBreak ch then
    !atWordEnd t && (ch == '-' || (!s.inFlow && (ch == '?' || ch == ':')))
  else true

/-- The cursor having looked at what decides which token starts with a
character here: at a document marker, and at what follows an indicator
that must end a word. -/
def lookAhead (s : Lexer) (ch : Char) : Cursor :=
  let c := s.cursor
  let c := if c.column = 0 ∧ (ch = '-' ∨ ch = '.') then c.lookForMarker else c
  if ch = '-' ∨ (!s.inFlow ∧ (ch = '?' ∨ ch = ':')) then c.look 2 else c

/-- The token that starts with a character before a rest. -/
def token (s : Lexer) (ch : Char) (t : Text) : Except Halt Lexer :=
  let first := s.cursor.column == 0
  let s := { s with cursor := s.lookAhead ch }
  if first && ch == '%' then s.directive
  else if first && atMarker '-' (ch :: t) then s.marker .documentStart
  else if first && atMarker '.' (ch :: t) then s.marker .documentEnd
  else if ch = '[' then s.openFlow .flowSequenceStart
  else if ch = '\x7b' then s.openFlow .flowMappingStart
  else if ch = ']' then s.closeFlow .flowSequenceEnd
  else if ch = '\x7d' then s.closeFlow .flowMappingEnd
  else if ch = ',' then s.flowEntry
  else if ch = '-' ∧ atWordEnd t then s.blockEntry
  else if ch = '?' ∧ (s.inFlow ∨ atWordEnd t) then s.explicitKey
  else if ch = ':' ∧ (s.inFlow ∨ atWordEnd t) then s.valueIndicator
  else if ch = '*' then s.named .reference
  else if ch = '&' then s.named .anchor
  else if ch = '!' then s.tag
  else if ch = '|' ∧ !s.inFlow then s.block false
  else if ch = '>' ∧ !s.inFlow then s.block true
  else if ch = '\'' ∨ ch = '"' then s.quoted ch
  else if s.startsPlain ch t then s.plain
  else (s.cursor.look 2).halt .malformed

/-- The lexer at the next token, with the blocks closed that end before
it. -/
def advance (s : Lexer) : Except Halt Lexer := do
  let s ← (skipBlanks (s.cursor.rest.length + 1) s.skipMark).forgetStaleKeys
  return s.unwind s.cursor.column

/-- The lexer after one more token, or, at the end of the text, after
the last. -/
def next (s : Lexer) : Except Halt (Lexer × Bool) := do
  let s ← s.advance
  match s.cursor.rest with
  | [] => return ((← s.closeAll).emit .streamEnd, true)
  | ch :: t => return (← s.token ch t, false)

/-- What has been read when a fault is met. -/
def stopped (s : Lexer) (e : Halt) : Output := ⟨s.settled.reverse, e⟩

/-- What has been read at the end of the text, where no token waits any
more. -/
def finished (s : Lexer) : Output :=
  let last := s.held.reverse.map fun t => (t, s.cursor.reach)
  ⟨s.settled.reverse ++ last, ⟨.malformed, s.cursor.reach⟩⟩

/-- Reads tokens to the end of the text or to a fault. -/
def run : Nat → Lexer → Output
  | 0, s => s.stopped ⟨.malformed, s.cursor.reach⟩
  | fuel + 1, s =>
    match s.settle with
    | .error e => s.stopped e
    | .ok s =>
      match s.next with
      | .error e => s.stopped e
      | .ok (s, true) => s.finished
      | .ok (s, false) => run fuel s

end Lexer

/-- The tokens of a text. Every token but the last is spelt by a
character at least. -/
def Token.ofText (t : Text) : Lexer.Output := Lexer.run (t.length + 1) { cursor := { rest := t } }

end Yaml

end HandlerGen
