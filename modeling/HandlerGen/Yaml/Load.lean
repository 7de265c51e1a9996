import HandlerGen.Yaml.Merge
import HandlerGen.Yaml.Scalar
import HandlerGen.Yaml.Source
/-!
# From a document to a value

The value of a document is made from the outside in. The parts of a
collection are made in their order, and the collections among them one
level after the other; the first fault on this way is the fault of the
document, and what has come about on it stays (`Document.made`).

As a document can stand for a graph with cycles, its value is made down
to a given depth, and collections further down are left empty
(`Document.value`).
-/

namespace HandlerGen

namespace Yaml

namespace Document

/-! ## Scalars -/

/-- The text that a node is read as by a tag of scalars. A mapping may
hold one under its value key. -/
def textOf (doc : Document) (m : Making) : Nat → Node → Except Fault Text
  | 0, _ => .error .endless
  | fuel + 1, n =>
    match doc.target n with
    | .scalar _ _ t => .ok t
    | .mapping place _ es =>
      match (m.entries place es).find? (doc.isValue m) with
      | some e => doc.textOf m fuel e.2
      | none => .error .malformed
    | _ => .error .malformed

/-- The scalar of a node by its tag. What a mapping was read as once it
remains. -/
def scalar (doc : Document) (m : Making) (n : Node) : Except Fault Scalar :=
  let made (n : Node) : Except Fault Scalar := do
    let t ← doc.textOf m (doc.size + 1) n
    match m.tag n, n with
    -- a mapping with a value key has a text, but no form to be a timestamp
    | .timestamp, .mapping .. => .error .timestampOfMapping
    | tag, _ => tag.scalar t
  match doc.target n with
  | .mapping place tag es =>
    match m.scalars.lookup place with
    | some s => .ok s
    | none => made (.mapping place tag es)
  | n => made n

/-- The scalar of a node, or nothing for a collection. -/
def scalar? (doc : Document) (n : Node) : Make (Option Scalar) := do
  let m ← get
  let n := doc.target n
  if (m.tag n).isCollection then return none
  else
    let s ← doc.scalar m n
    set (m.keep n s)
    return some s

/-! ## Collections -/

/-- The collections among some nodes, once all the scalars before them
have been made. -/
def collections (doc : Document) : List Node → Make (List Node)
  | [] => return []
  | n :: ns => do
    match ← doc.scalar? n with
    | some _ => doc.collections ns
    | none => return doc.target n :: (← doc.collections ns)

/-- The collections among the values of some entries, once all keys and
scalars before them have been made. A key must be a scalar. -/
def valueCollections (doc : Document) : List Entry → Make (List Node)
  | [] => return []
  | (k, v) :: es => do
    match ← doc.scalar? k with
    | none => throw .malformed
    | some _ =>
      let here ← doc.collections [v]
      return here ++ (← doc.valueCollections es)

/-- The collections within a sequence of mappings with one entry
each. -/
def pairCollections (doc : Document) : List Node → Make (List Node)
  | [] => return []
  | n :: ns => do
    match doc.target n with
    | .mapping place _ es =>
      match (← get).entries place es with
      | [(k, v)] =>
        let here ← doc.collections [k, v]
        return here ++ (← doc.pairCollections ns)
      | _ => throw .malformed
    | _ => throw .malformed

/-- The collections right inside a collection, in the order in which
they are made, or the first fault right inside it. -/
def parts (doc : Document) (n : Node) : Make (List Node) :=
  match n.tag, n with
  | .sequence, .sequence _ _ items => doc.collections items
  | .pairs, .sequence _ _ items => doc.pairCollections items
  | .mapping, .mapping place _ es => do doc.valueCollections (← doc.merged place es)
  | .set, .mapping place _ es => do doc.valueCollections (← doc.merged place es)
  | _, _ => throw .malformed

/-- The nodes of a list whose places are not among those seen, each once,
before the places seen. -/
def withFresh (seen : List Nat) : List Node → List Node × List Nat
  | [] => ([], seen)
  | n :: ns =>
    if seen.contains n.place then withFresh seen ns
    else
      let (fresh, seen) := withFresh (n.place :: seen) ns
      (n :: fresh, seen)

/-- Makes a level of collections and those below it. Without anchors no
node is met twice, and none is kept to be known again. -/
def makeBelow (doc : Document) : Nat → List Nat → List Node → Make Unit
  | 0, _, _ => return ()
  | fuel + 1, seen, level => do
    let (fresh, seen) := if doc.anchors.isEmpty then (level, []) else withFresh seen level
    match fresh with
    | [] => return ()
    | _ =>
      let below ← fresh.mapM doc.parts
      doc.makeBelow fuel seen below.flatten

/-- What has come about once all of a document has been made, or its
first fault. -/
def made (doc : Document) : Except Fault Making := do
  let make : Make Unit := do
    let level ← doc.collections [doc.root]
    doc.makeBelow (doc.size + 1) [] level
  let (_, m) ← make.run {}
  return m

/-! ## Values -/

/-- The scalar of a node that has one. -/
def scalarOf (doc : Document) (m : Making) (n : Node) : Scalar :=
  (doc.scalar m n).toOption.getD .null

/-- The value of a node, its parts down to a depth. -/
def valueOf (doc : Document) (m : Making) : Nat → Node → Value
  | 0, n =>
    match m.tag (doc.target n) with
    | .sequence | .pairs => .list []
    | .mapping => .dict []
    | .set => .set []
    | _ => .scalar (doc.scalarOf m n)
  | depth + 1, n =>
    match m.tag (doc.target n), doc.target n with
    | .sequence, .sequence _ _ items => .list (items.map (doc.valueOf m depth))
    | .pairs, .sequence _ _ items =>
      .list (items.map fun i =>
        match doc.target i with
        | .mapping place _ es =>
          match m.entries place es with
          | [(k, v)] => .list [doc.valueOf m depth k, doc.valueOf m depth v]
          | _ => .null
        | _ => .null)
    | .mapping, .mapping place _ es =>
      .dict (Entries.ofPairs ((m.entries place es).map fun (k, v) =>
        (doc.scalarOf m k, doc.valueOf m depth v)))
    | .set, .mapping place _ es =>
      .set ((Entries.ofPairs ((m.entries place es).map fun (k, _) =>
        (doc.scalarOf m k, ()))).map Prod.fst)
    | _, _ => .scalar (doc.scalarOf m n)

/-- The value of a document, its parts down to a depth. -/
def value (doc : Document) (depth : Nat) : Except Fault Value := do
  return doc.valueOf (← doc.made) depth doc.root

end Document

/-- The value of a source, its parts down to a depth. -/
def load (depth : Nat) (s : Source) : Except Fault Value := do
  (← s.document).value depth

end Yaml

end HandlerGen
