import HandlerGen.Yaml.Node
import HandlerGen.Yaml.Token.Lexer
/-!
# From tokens to a document

The reader of nodes goes down the grammar of the language: a node is an
alias, or it has an anchor and a tag, in either order and each at will,
and then a scalar or a collection. A block sequence may stand at the
column of the key it belongs to, without indentation of its own
(`indentless`). A node that is left out counts as null.

An anchor is known from the start of its node on, and no name is given
twice. A text without tokens is the document null; a text with more than
one document is a fault. A fault says how far the text had been looked
at when the last token was asked for.

The functions call each other along the tokens. Each call reads a token
or goes on to one that does within two more calls, so a fuel of three
times the count of tokens lasts.
-/

namespace HandlerGen

namespace Yaml

namespace Document

/-- What is left to read and what is known of the anchors. -/
structure Reader where
  /-- The tokens that are left, with how far the text had been looked at
  when they were known. -/
  tokens : List (Token × Nat)
  /-- How many tokens have been passed over. -/
  passed : Nat := 0
  /-- What is met behind the last token. -/
  halt : Halt
  /-- How far the text has been looked at. -/
  reach : Nat := 0
  /-- The handles of tags that the document declares. -/
  handles : List (Text × Text) := []
  /-- The names of the anchors so far. -/
  names : List Text := []
  /-- The nodes with anchors that have been read to their end. -/
  anchors : List (Text × Node) := []

/-- A step of reading. -/
abbrev Read := StateT Reader (Except Halt)

/-- The tokens, as far as they have been looked at, are those of no
document. -/
def fail {α : Type} : Read α := do throw ⟨.malformed, (← get).reach⟩

/-- The next token. -/
def peek : Read Token := do
  let r ← get
  match r.tokens with
  | [] => throw r.halt
  | (t, reach) :: _ =>
    set { r with reach }
    return t

/-- The place of a node that starts at the next token. -/
def place : Read Nat := return (← get).passed + 1

/-- Passes over the next token. -/
def drop : Read Unit := modify fun r => { r with tokens := r.tokens.tail, passed := r.passed + 1 }

/-- The handles that every document has. -/
def defaultHandles : List (Text × Text) := [(['!'], ['!']), (['!', '!'], Tag.languageUri)]

/-- The tag that a handle and a suffix spell. -/
def spelledTag (handle : Option Text) (suffix : Text) : Read Text := do
  match handle with
  | none => return suffix
  | some h =>
    match ((← get).handles ++ defaultHandles).lookup h with
    | some uri => return uri ++ suffix
    | none => fail

/-- The anchor and the tag before a node, in either order. -/
def properties : Read (Option Text × Option Text) := do
  match ← peek with
  | .anchor name =>
    drop
    match ← peek with
    | .tag handle suffix =>
      drop
      return (some name, some (← spelledTag handle suffix))
    | _ => return (some name, none)
  | .tag handle suffix =>
    drop
    match ← peek with
    | .anchor name =>
      drop
      return (some name, some (← spelledTag handle suffix))
    | _ => return (none, some (← spelledTag handle suffix))
  | _ => return (none, none)

/-- The tag of a scalar. An exclamation mark makes it plain. -/
def scalarTag (tag : Option Text) (text : Text) (plain : Bool) : Tag :=
  match tag with
  | none => if plain then .ofPlain text else .text
  | some ['!'] => .ofPlain text
  | some uri => .ofUri uri

/-- The tag of a collection. An exclamation mark makes it the one of its
kind. -/
def collectionTag (tag : Option Text) (kind : Tag) : Tag :=
  match tag with
  | none => kind
  | some ['!'] => kind
  | some uri => .ofUri uri

/-- Makes an anchor known, which must be new. -/
def openAnchor : Option Text → Read Unit
  | none => return ()
  | some name => do
    if (← get).names.contains name then fail
    else modify fun r => { r with names := name :: r.names }

/-- Puts an anchor on a node that has been read. -/
def closeAnchor : Option Text → Node → Read Node
  | none, n => return n
  | some name, n => do
    modify fun r => { r with anchors := (name, n) :: r.anchors }
    return n

/-- Whether a node is left out of a block mapping before a token. -/
def absentInMapping : Token → Bool
  | .key | .value | .blockEnd => true
  | _ => false

mutual

/-- A node. Block collections are read where `block` allows, and a block
sequence without indentation where `indentless` does. -/
def node : Nat → Bool → Bool → Read Node
  | 0, _, _ => fail
  | fuel + 1, block, indentless => do
    match ← peek with
    | .reference name =>
      drop
      if (← get).names.contains name then return .reference name else fail
    | _ =>
      let place ← place
      let (anchor, tag) ← properties
      match ← peek, block, indentless with
      | .scalar text plain, _, _ =>
        drop
        openAnchor anchor
        closeAnchor anchor (.scalar place (scalarTag tag text plain) text)
      | .flowSequenceStart, _, _ =>
        drop
        openAnchor anchor
        closeAnchor anchor (.sequence place (collectionTag tag .sequence) (← flowItems fuel true))
      | .flowMappingStart, _, _ =>
        drop
        openAnchor anchor
        closeAnchor anchor (.mapping place (collectionTag tag .mapping) (← flowEntries fuel true))
      | .blockSequenceStart, true, _ =>
        drop
        openAnchor anchor
        closeAnchor anchor (.sequence place (collectionTag tag .sequence) (← blockItems fuel))
      | .blockMappingStart, true, _ =>
        drop
        openAnchor anchor
        closeAnchor anchor (.mapping place (collectionTag tag .mapping) (← blockEntries fuel))
      | .blockEntry, _, true =>
        openAnchor anchor
        closeAnchor anchor (.sequence place (collectionTag tag .sequence) (← indentlessItems fuel))
      | _, _, _ =>
        -- a node with an anchor or a tag may be left out
        if anchor.isNone && tag.isNone then fail
        else
          openAnchor anchor
          closeAnchor anchor (.scalar place (scalarTag tag [] true) [])

/-- The items of a block sequence, up to its end. -/
def blockItems : Nat → Read (List Node)
  | 0 => fail
  | fuel + 1 => do
    match ← peek with
    | .blockEntry =>
      drop
      let item ←
        match ← peek with
        | .blockEntry | .blockEnd => pure .absent
        | _ => node fuel true false
      return item :: (← blockItems fuel)
    | .blockEnd =>
      drop
      return []
    | _ => fail

/-- The items of a block sequence without indentation. -/
def indentlessItems : Nat → Read (List Node)
  | 0 => fail
  | fuel + 1 => do
    match ← peek with
    | .blockEntry =>
      drop
      let item ←
        match ← peek with
        | .blockEntry | .key | .value | .blockEnd => pure .absent
        | _ => node fuel true false
      return item :: (← indentlessItems fuel)
    | _ => return []

/-- The entries of a block mapping, up to its end. -/
def blockEntries : Nat → Read (List Entry)
  | 0 => fail
  | fuel + 1 => do
    match ← peek with
    | .key =>
      drop
      let key ← if absentInMapping (← peek) then pure .absent else node fuel true true
      let value ←
        match ← peek with
        | .value =>
          drop
          if absentInMapping (← peek) then pure .absent else node fuel true true
        | _ => pure .absent
      return (key, value) :: (← blockEntries fuel)
    | .blockEnd =>
      drop
      return []
    | _ => fail

/-- The items of a flow sequence, up to its end. A key makes a mapping
of one entry. -/
def flowItems : Nat → Bool → Read (List Node)
  | 0, _ => fail
  | fuel + 1, first => do
    match ← peek, first with
    | .flowSequenceEnd, _ =>
      drop
      return []
    | .flowEntry, false =>
      drop
      match ← peek with
      | .flowSequenceEnd =>
        drop
        return []
      | _ =>
        let item ← flowItem fuel
        return item :: (← flowItems fuel false)
    | _, true =>
      let item ← flowItem fuel
      return item :: (← flowItems fuel false)
    | _, false => fail

/-- One item of a flow sequence. -/
def flowItem : Nat → Read Node
  | 0 => fail
  | fuel + 1 => do
    match ← peek with
    | .key =>
      let place ← place
      drop
      let key ←
        match ← peek with
        | .value | .flowEntry | .flowSequenceEnd => pure .absent
        | _ => node fuel false false
      let value ←
        match ← peek with
        | .value =>
          drop
          match ← peek with
          | .flowEntry | .flowSequenceEnd => pure .absent
          | _ => node fuel false false
        | _ => pure .absent
      return .mapping place .mapping [(key, value)]
    | _ => node fuel false false

/-- The entries of a flow mapping, up to its end. -/
def flowEntries : Nat → Bool → Read (List Entry)
  | 0, _ => fail
  | fuel + 1, first => do
    match ← peek, first with
    | .flowMappingEnd, _ =>
      drop
      return []
    | .flowEntry, false =>
      drop
      match ← peek with
      | .flowMappingEnd =>
        drop
        return []
      | _ =>
        let entry ← flowPair fuel
        return entry :: (← flowEntries fuel false)
    | _, true =>
      let entry ← flowPair fuel
      return entry :: (← flowEntries fuel false)
    | _, false => fail

/-- One entry of a flow mapping. Without a key token the node is a key
without a value. -/
def flowPair : Nat → Read Entry
  | 0 => fail
  | fuel + 1 => do
    match ← peek with
    | .key =>
      drop
      let key ←
        match ← peek with
        | .value | .flowEntry | .flowMappingEnd => pure .absent
        | _ => node fuel false false
      let value ←
        match ← peek with
        | .value =>
          drop
          match ← peek with
          | .flowEntry | .flowMappingEnd => pure .absent
          | _ => node fuel false false
        | _ => pure .absent
      return (key, value)
    | _ => return (← node fuel false false, .absent)

end

/-- The directives from here on, of which at most `fuel` are read. The
version is given once and its major number is one, and no handle is
declared twice. -/
def directives : Nat → Bool → Read Unit
  | 0, _ => return ()
  | fuel + 1, versionKnown => do
    match ← peek with
    | .directive (.version major) =>
      drop
      if versionKnown || major != 1 then fail else directives fuel true
    | .directive (.handle name uri) =>
      drop
      if ((← get).handles.lookup name).isSome then fail
      else
        modify fun r => { r with handles := (name, uri) :: r.handles }
        directives fuel versionKnown
    | .directive .unknown =>
      drop
      directives fuel versionKnown
    | _ => return ()

/-- The content of a document after its marker. -/
def content (fuel : Nat) : Read Node := do
  match ← peek with
  | .directive _ | .documentStart | .documentEnd | .streamEnd => return .absent
  | _ => node fuel true false

/-- Passes over the markers at the end of a document, of which at most
`fuel` are read. -/
def endMarkers : Nat → Read Unit
  | 0 => return ()
  | fuel + 1 => do
    match ← peek with
    | .documentEnd =>
      drop
      endMarkers fuel
    | _ => return ()

/-- Requires that no further document comes. -/
def noFurther (fuel : Nat) : Read Unit := do
  endMarkers fuel
  match ← peek with
  | .streamEnd => return ()
  | _ =>
    -- a fault of the directives comes before the one of the document
    modify fun r => { r with handles := [] }
    directives fuel false
    let _ ← peek
    fail

/-- The outermost node of the one document of a text. -/
def outermost (fuel : Nat) : Read Node := do
  match ← peek with
  | .streamEnd => return .absent
  | .directive _ | .documentStart =>
    directives fuel false
    match ← peek with
    | .documentStart =>
      drop
      let n ← content fuel
      noFurther fuel
      return n
    | _ => fail
  | _ =>
    let n ← node fuel true false
    noFurther fuel
    return n

/-- The document of a list of tokens, or the fault of the tokens or of
what is met behind them. -/
def ofTokens (out : Lexer.Output) : Except Halt Document :=
  let size := out.tokens.length
  match (outermost (3 * size + 3)).run { tokens := out.tokens, halt := out.halt } with
  | .error e => .error e
  | .ok (n, r) => .ok { root := n, anchors := r.anchors, size }

end Document

end Yaml

end HandlerGen
