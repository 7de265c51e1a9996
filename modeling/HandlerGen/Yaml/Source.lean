import HandlerGen.Text.Utf8
import HandlerGen.Yaml.Document
/-!
# Sources

The text of a document is read in blocks, and a block only when a
character in it is looked at; the first two are read before anything
else. So what is wrong with a block, be it bytes that spell no
characters or a character that no document has, is met only by a reading
that gets so far. A fault that stops it before is the fault of the
document (`Source.document`).

A source is the text of the blocks before the first one that something
is wrong with, together with what that is. Bytes that are no text come
in pieces larger than a block (`ofBytes`), and a piece is refused as a
whole.
-/

namespace HandlerGen

namespace Yaml

/-- A character that a text may hold. -/
def isContentCharacter (c : Char) : Bool :=
  let n := c.toNat
  n == 0x09 || n == 0x0A || n == 0x0D || (0x20 ≤ n && n ≤ 0x7E) || n == 0x85
    || (0xA0 ≤ n && n ≤ 0xD7FF) || (0xE000 ≤ n && n ≤ 0xFFFD) || 0x10000 ≤ n

/-- A text whose lines end in line feeds, up to what is wrong with it. -/
structure Source where
  /-- The text of the blocks before the first one with something wrong. -/
  clear : Text
  /-- What is wrong behind them, if anything is. -/
  obstacle : Option Fault := none
deriving DecidableEq, Repr

namespace Source

/-- The count of characters in a block. -/
def blockSize : Nat := 4096

/-- The count of characters in so many whole blocks, of which the first
two count only together. -/
def inBlocks (n : Nat) : Nat := if n < 2 then 0 else n * blockSize

/-- The source of some text before an obstacle, if there is one. The
first character that no document has is an obstacle of its own. -/
def upTo (t : Text) (obstacle : Option Fault) : Source :=
  match t.findIdx? (!isContentCharacter ·) with
  | none => ⟨t, obstacle⟩
  | some i => ⟨t.take (inBlocks (i / blockSize)), some .malformed⟩

/-- The source of a text. -/
def ofText (t : Text) : Source := upTo t none

/-- **A text of characters that a document may have is its own source.** -/
theorem ofText_of_all {t : Text} (h : t.all isContentCharacter = true) : ofText t = ⟨t, none⟩ := by
  have hnone : t.findIdx? (!isContentCharacter ·) = none := by
    rw [List.findIdx?_eq_none_iff]
    intro c hc
    rw [List.all_eq_true.1 h c hc]
    rfl
  rw [ofText, upTo, hnone]

/-! ## Bytes that are no text -/

/-- The least count of bytes in a piece. -/
def pieceSize : Nat := 8192

/-- The characters that are known once some bytes have been read. A
carriage return at their end may be half of a line end, and waits. -/
def known (bs : List UInt8) : Text :=
  let t := (Utf8.read bs).text
  Text.unifyBreaks (if t.getLast? = some '\r' then t.dropLast else t)

/-- Whether the piece of bytes between two places is refused. Bytes that
end within a character are refused only once there are no more. -/
def isRefused (refused : Option Nat) (start stop : Nat) : Bool :=
  match refused with
  | some i => i < stop
  | none => start == stop

/-- The count of whole blocks before bytes are refused, of which so many
have been read. A piece is as large as the characters that a block still
misses, by the bytes that a character of the piece before had on
average. -/
def blocksBefore (bs : List UInt8) (refused : Option Nat) :
    Nat → (start lastBytes lastChars blocks : Nat) → Nat
  | 0, _, _, _, blocks => blocks
  | fuel + 1, start, lastBytes, lastChars, blocks =>
    let count := (known (bs.take start)).length
    let wanted := (blocks + 1) * blockSize
    if wanted ≤ count then blocksBefore bs refused fuel start lastBytes lastChars (blocks + 1)
    else
      let missing := (wanted - count) * max lastBytes lastChars / lastChars
      let stop := min (start + max pieceSize missing) bs.length
      if isRefused refused start stop then blocks
      else
        let more := (known (bs.take stop)).length - count
        blocksBefore bs refused fuel stop (stop - start) more blocks

/-- The source of bytes that are no text. -/
def ofBytes (bs : List UInt8) : Source :=
  let refused := (Utf8.read bs).refused
  let blocks := blocksBefore bs refused (2 * bs.length + 2) 0 0 0 0
  upTo ((known bs).take (inBlocks blocks)) (some .encoding)

/-! ## Reading -/

/-- The document of a source. A fault counts if nothing behind the clear
text has been looked at before it. -/
def document (s : Source) : Except Fault Document :=
  match Document.ofTokens (Token.ofText s.clear), s.obstacle with
  | .ok doc, none => .ok doc
  | .error e, none => .error e.fault
  | .ok _, some f => .error f
  | .error e, some f => .error (if e.reach ≤ s.clear.length then e.fault else f)

end Source

end Yaml

end HandlerGen
