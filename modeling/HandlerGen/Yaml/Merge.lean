import HandlerGen.Value
import HandlerGen.Yaml.Fault
import HandlerGen.Yaml.Node
/-!
# Merged mappings

The entries of a mapping under a merge key are those of other mappings:
of one, or of each in a list. They are taken over when the value of the
mapping is made: each merge key is taken out, the mappings that it names
are themselves merged first, and their entries come in front of those
that are left. Of a list the last mapping comes first, so that the
entries of an earlier one override them in their place.

This is done once and for all. A mapping that has been merged keeps its
entries for every alias of it, and its value keys, which are texts from
then on, stay texts where they are used again. A mapping that names
itself, directly or through others, finds what is left of its own
entries.

`Making` holds what is no longer as the document has it. A mapping
without merge keys and value keys changes nothing of it
(`merged_of_plain`).
-/

namespace HandlerGen

namespace Yaml

/-- What has come about while values were made from a document. -/
structure Making where
  /-- The entries of the mappings that have others merged into them, by
  their places. -/
  merged : List (Nat × List Entry) := []
  /-- The places of the value keys that have become texts. -/
  texts : List Nat := []
  /-- The scalars that mappings were read as, by their places. -/
  scalars : List (Nat × Scalar) := []

namespace Making

/-- The tag that a node has by now. -/
def tag (m : Making) (n : Node) : Tag :=
  if n.tag = .value ∧ n.place ∈ m.texts then .text else n.tag

/-- The entries that the mapping at a place has by now. -/
def entries (m : Making) (place : Nat) (es : List Entry) : List Entry :=
  (m.merged.lookup place).getD es

/-- Keeps the scalar that a mapping was read as. All other scalars can be
read again. -/
def keep (m : Making) (n : Node) (s : Scalar) : Making :=
  match n with
  | .mapping place _ _ => { m with scalars := (place, s) :: m.scalars }
  | _ => m

/-- Gives the mapping at a place other entries. -/
def setEntries (m : Making) (place : Nat) (es : List Entry) : Making :=
  { m with merged := (place, es) :: m.merged }

end Making

/-- A step of making values. -/
abbrev Make := StateT Making (Except Fault)

namespace Document

/-- Whether the key of an entry is a merge key. -/
def isMerge (doc : Document) (e : Entry) : Bool := (doc.target e.1).tag == .merge

/-- Whether the key of an entry is a value key by now. -/
def isValue (doc : Document) (m : Making) (e : Entry) : Bool := m.tag (doc.target e.1) == .value

/-- What the first merge key of some entries names, and the entries
without it. -/
def takeMerge? (doc : Document) : List Entry → Option (Node × List Entry)
  | [] => none
  | e :: es =>
    if doc.isMerge e then some (e.2, es)
    else (doc.takeMerge? es).map fun (n, rest) => (n, e :: rest)

/-- Entries without merge keys have none to take. -/
theorem takeMerge?_eq_none {doc : Document} {es : List Entry}
    (h : ∀ e ∈ es, doc.isMerge e = false) : doc.takeMerge? es = none := by
  induction es with
  | nil => rfl
  | cons e es ih =>
    rw [takeMerge?, h e List.mem_cons_self, ih fun e he => h e (List.mem_cons_of_mem _ he)]
    rfl

/-- Puts entries in front of those that the mapping at a place has by
now, and makes texts of its value keys. -/
def settle (doc : Document) (place : Nat) (es above : List Entry) : Make (List Entry) := do
  let m ← get
  let now := above ++ m.entries place es
  let m := if above.isEmpty then m else m.setEntries place now
  let places := (now.filter (doc.isValue m)).map fun e => (doc.target e.1).place
  set { m with texts := places ++ m.texts }
  return now

/-- Takes the merge keys out of the mapping at a place, and gives the
entries of the mappings that they name, which are merged first. Each
call with less fuel has one merge key less before it. -/
def takeMerged (doc : Document) : Nat → Nat → List Entry → Make (List Entry)
  | 0, _, _ => return []
  | fuel + 1, place, es => do
    match doc.takeMerge? ((← get).entries place es) with
    | none => return []
    | some (source, rest) =>
      modify (·.setEntries place rest)
      let entriesOf (n : Node) : Make (List Entry) :=
        match doc.target n with
        | .mapping p _ fs => do doc.settle p fs (← doc.takeMerged fuel p fs)
        | _ => throw .malformed
      let here ←
        match doc.target source with
        -- the last one comes first, so that an earlier one overrides it
        | .sequence _ _ items => do
          let entries ← items.mapM entriesOf
          pure entries.reverse.flatten
        | _ => entriesOf source
      return here ++ (← doc.takeMerged fuel place es)

/-- Merges into the mapping at a place what its merge keys name, and
gives the entries that it has then. -/
def merged (doc : Document) (place : Nat) (es : List Entry) : Make (List Entry) := do
  doc.settle place es (← doc.takeMerged (doc.size + 1) place es)

/-- **A mapping without merge keys and value keys stays as it is,** and so
does everything else. -/
theorem merged_of_plain {doc : Document} {m : Making} {place : Nat} {es : List Entry}
    (hmerge : ∀ e ∈ m.entries place es, doc.isMerge e = false)
    (hvalue : ∀ e ∈ m.entries place es, doc.isValue m e = false) :
    (doc.merged place es).run m = .ok (m.entries place es, m) := by
  have htake : (doc.takeMerged (doc.size + 1) place es).run m = .ok ([], m) := by
    rw [takeMerged]
    simp only [StateT.run_bind, StateT.run_get, pure_bind]
    rw [takeMerge?_eq_none hmerge]
    rfl
  have hfilter : (m.entries place es).filter (doc.isValue m) = [] := by
    rw [List.filter_eq_nil_iff]
    intro e he h
    rw [hvalue e he] at h
    exact absurd h (by decide)
  have hsettle : (doc.settle place es []).run m = .ok (m.entries place es, m) := by
    simp [settle, hfilter, StateT.run_bind]
    rfl
  rw [merged, StateT.run_bind, htake]
  exact hsettle

end Document

end Yaml

end HandlerGen
