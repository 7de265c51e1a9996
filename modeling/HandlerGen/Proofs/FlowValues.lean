import HandlerGen.Proofs.Acceptance
import HandlerGen.Proofs.FlowWriter
import HandlerGen.Yaml.Load
import Mathlib.Data.List.Forall2
import Mathlib.Data.List.Nodup
/-!
# The values of plain trees

The value of a document whose nodes are texts, truth values, sequences and
mappings with texts as keys. A document is made level by level, and its
value is read off once all of it has been made. For a node both follow from
the same for its parts, so they are stated together and for any document
around the node (`Document.Makes`).

Nothing comes about on the way that is not in the document: there is no
key to merge, and no mapping is read as a scalar. So what has been made
stays empty throughout.
-/

namespace HandlerGen

namespace Yaml

namespace Document

variable {doc : Document} {k : Nat} {n : Node}

/-- A collection whose parts are made down to a depth, where nothing comes
about on the way that is not in the document. -/
def Parted (doc : Document) : Nat → Node → Prop
  | 0, _ => False
  | k + 1, n => ∃ below, (doc.parts n).run {} = .ok (below, {}) ∧ ∀ b ∈ below, doc.Parted k b

/-- A node that is a scalar or such a collection. -/
def Made (doc : Document) (k : Nat) (n : Node) : Prop :=
  (∃ s, (doc.scalar? n).run {} = .ok (some s, {}))
    ∨ ((doc.scalar? n).run {} = .ok (none, {}) ∧ doc.Parted k (doc.target n))

/-! ## Levels -/

theorem run_bind_of_make {α β : Type} {p : Make α} {f : α → Make β} {m m' : Making} {a : α}
    (h : p.run m = .ok (a, m')) : (p >>= f).run m = (f a).run m' := by
  rw [StateT.run_bind, h]
  rfl

/-- The collections among nodes that are made are made. -/
theorem run_collections {ns : List Node} (h : ∀ n ∈ ns, doc.Made k n) :
    ∃ below, (doc.collections ns).run {} = .ok (below, {}) ∧ ∀ b ∈ below, doc.Parted k b := by
  induction ns with
  | nil => exact ⟨[], rfl, fun b hb => absurd hb List.not_mem_nil⟩
  | cons n ns ih =>
    obtain ⟨below, hbelow, hall⟩ := ih fun n hn => h n (List.mem_cons_of_mem _ hn)
    rcases h n List.mem_cons_self with ⟨s, hs⟩ | ⟨hnone, hparted⟩
    · refine ⟨below, ?_, hall⟩
      rw [collections, run_bind_of_make hs]
      exact hbelow
    · refine ⟨doc.target n :: below, ?_, List.forall_mem_cons.2 ⟨hparted, hall⟩⟩
      rw [collections, run_bind_of_make hnone, run_bind_of_make hbelow]
      rfl

/-- And those among the values of entries with texts as keys. -/
theorem run_valueCollections {es : List Entry}
    (h : ∀ e ∈ es, (∃ s, (doc.scalar? e.1).run {} = .ok (some s, {})) ∧ doc.Made k e.2) :
    ∃ below, (doc.valueCollections es).run {} = .ok (below, {}) ∧ ∀ b ∈ below, doc.Parted k b := by
  induction es with
  | nil => exact ⟨[], rfl, fun b hb => absurd hb List.not_mem_nil⟩
  | cons e es ih =>
    obtain ⟨key, value⟩ := e
    obtain ⟨below, hbelow, hall⟩ := ih fun e he => h e (List.mem_cons_of_mem _ he)
    obtain ⟨⟨s, hs⟩, hvalue⟩ := h _ List.mem_cons_self
    have hvalues : ∀ n ∈ [value], doc.Made k n := fun n hn => List.mem_singleton.1 hn ▸ hvalue
    obtain ⟨here, hhere, hparted⟩ := run_collections hvalues
    refine ⟨here ++ below, ?_, List.forall_mem_append.2 ⟨hparted, hall⟩⟩
    rw [valueCollections, run_bind_of_make hs]
    simp only
    rw [run_bind_of_make hhere, run_bind_of_make hbelow]
    rfl

/-- The parts of a level are a level. -/
theorem run_mapM_parts {level : List Node} (h : ∀ n ∈ level, doc.Parted (k + 1) n) :
    ∃ below, (level.mapM doc.parts).run {} = .ok (below, {})
      ∧ ∀ b ∈ below.flatten, doc.Parted k b := by
  induction level with
  | nil => exact ⟨[], rfl, fun b hb => absurd hb List.not_mem_nil⟩
  | cons n level ih =>
    obtain ⟨below, hbelow, hall⟩ := ih fun n hn => h n (List.mem_cons_of_mem _ hn)
    obtain ⟨here, hhere, hparted⟩ := h n List.mem_cons_self
    refine ⟨here :: below, ?_, ?_⟩
    · rw [List.mapM_cons, run_bind_of_make hhere, run_bind_of_make hbelow]
      rfl
    · rw [List.flatten_cons]
      exact List.forall_mem_append.2 ⟨hparted, hall⟩

/-- **A level is made with all below it.** -/
theorem run_makeBelow (hanchors : doc.anchors = []) {level : List Node}
    (h : ∀ n ∈ level, doc.Parted k n) (fuel : Nat) :
    (doc.makeBelow fuel [] level).run {} = .ok ((), {}) := by
  induction fuel generalizing k level with
  | zero => rfl
  | succ fuel ih =>
    rw [makeBelow, hanchors]
    cases level with
    | nil => rfl
    | cons n level =>
      obtain ⟨k, rfl⟩ : ∃ j, k = j + 1 := by
        cases k with
        | zero => exact absurd (h n List.mem_cons_self) not_false
        | succ k => exact ⟨k, rfl⟩
      obtain ⟨below, hbelow, hall⟩ := run_mapM_parts h
      have hnext := ih hall
      change ((n :: level).mapM doc.parts >>= fun below => _).run {} = _
      rw [run_bind_of_make hbelow]
      exact hnext

/-- A document is made if its outermost node is. -/
theorem made_of_root (hanchors : doc.anchors = []) (h : doc.Made k doc.root) :
    doc.made = .ok {} := by
  have hroot : ∀ n ∈ [doc.root], doc.Made k n := fun n hn => List.mem_singleton.1 hn ▸ h
  obtain ⟨level, hlevel, hparted⟩ := run_collections hroot
  rw [made]
  simp only
  rw [run_bind_of_make hlevel, run_makeBelow hanchors hparted]
  rfl

/-! ## Values -/

/-- A node whose value, its parts down to a depth, is a given one in any
document. -/
structure Makes (n : Node) (k : Nat) (v : Value) : Prop where
  made : ∀ doc : Document, doc.Made k n
  value : ∀ doc : Document, doc.valueOf {} k n = v

theorem makes_text (place : Nat) (t : Text) (k : Nat) :
    Makes (.scalar place .text t) k (.scalar (.text t)) where
  made doc := .inl ⟨_, rfl⟩
  value doc := by cases k <;> rfl

theorem makes_flag (place : Nat) (b : Bool) (k : Nat) :
    Makes (.scalar place .bool (flagWord b)) k (.scalar (.bool b)) where
  made doc := .inl ⟨.bool b, by cases b <;> rfl⟩
  value doc := by cases k <;> cases b <;> rfl

variable {γ : Type} {gs : List γ} {v : γ → Value}

/-- **A sequence has the list of its items' values.** -/
theorem makes_list {place : Nat} {items : List Node}
    (h : List.Forall₂ (fun g n => Makes n k (v g)) gs items) :
    Makes (.sequence place .sequence items) (k + 1) (.list (gs.map v)) where
  made doc := by
    have hitems : ∀ n ∈ items, doc.Made k n := by
      induction h with
      | nil => exact fun n hn => absurd hn List.not_mem_nil
      | cons hg _ ih => exact List.forall_mem_cons.2 ⟨hg.made doc, ih⟩
    exact .inr ⟨rfl, run_collections hitems⟩
  value doc := by
    have hvalues : items.map (doc.valueOf {} k) = gs.map v := by
      induction h with
      | nil => rfl
      | cons hg _ ih => rw [List.map_cons, List.map_cons, hg.value doc, ih]
    change Value.list (items.map (doc.valueOf {} k)) = _
    rw [hvalues]

/-- **A mapping with different texts as keys has the entries of these and
its values' values**, in order. -/
theorem makes_dict {place : Nat} {es : List Entry} {key : γ → Text}
    (h : List.Forall₂ (fun g e => (∃ p, e.1 = .scalar p .text (key g)) ∧ Makes e.2 k (v g)) gs es)
    (hkeys : (gs.map key).Nodup) :
    Makes (.mapping place .mapping es) (k + 1)
      (.dict (gs.map fun g => (.text (key g), v g))) where
  made doc := by
    have hentries : ∀ e ∈ es, (∃ p t, e.1 = .scalar p .text t) ∧ doc.Made k e.2 := by
      induction h with
      | nil => exact fun e he => absurd he List.not_mem_nil
      | cons hg _ ih =>
        obtain ⟨⟨p, hp⟩, hvalue⟩ := hg
        have hkeys' := (List.nodup_cons.1 hkeys).2
        exact List.forall_mem_cons.2 ⟨⟨⟨p, _, hp⟩, hvalue.made doc⟩, ih hkeys'⟩
    have hmerged : (doc.merged place es).run {} = .ok (es, {}) := by
      refine merged_of_plain (fun e he => ?_) fun e he => ?_
      · obtain ⟨⟨p, t, hp⟩, -⟩ := hentries e he
        rw [isMerge, hp]
        rfl
      · obtain ⟨⟨p, t, hp⟩, -⟩ := hentries e he
        rw [isValue, hp]
        rfl
    have hparts : ∀ e ∈ es,
        (∃ s, (doc.scalar? e.1).run {} = .ok (some s, {})) ∧ doc.Made k e.2 := by
      intro e he
      obtain ⟨⟨p, t, hp⟩, hvalue⟩ := hentries e he
      exact ⟨⟨.text t, hp ▸ rfl⟩, hvalue⟩
    obtain ⟨below, hbelow, hparted⟩ := run_valueCollections hparts
    refine .inr ⟨rfl, below, ?_, hparted⟩
    change (doc.merged place es >>= doc.valueCollections).run {} = _
    rw [run_bind_of_make hmerged, hbelow]
  value doc := by
    have hvalues : (es.map fun e => (doc.scalarOf {} e.1, doc.valueOf {} k e.2))
        = gs.map fun g => (Scalar.text (key g), v g) := by
      clear hkeys
      induction h with
      | nil => rfl
      | cons hg _ ih =>
        obtain ⟨⟨p, hp⟩, hvalue⟩ := hg
        rw [List.map_cons, List.map_cons, hp, hvalue.value doc, ih]
        rfl
    have hnodup : ((gs.map fun g => (Scalar.text (key g), v g)).map Prod.fst).Nodup := by
      have hmap : (gs.map fun g => (Scalar.text (key g), v g)).map Prod.fst
          = (gs.map key).map Scalar.text := by
        rw [List.map_map, List.map_map]
        rfl
      rw [hmap]
      exact List.Nodup.map (fun s t h => Scalar.text.inj h) hkeys
    change Value.dict
      (Entries.ofPairs (es.map fun e => (doc.scalarOf {} e.1, doc.valueOf {} k e.2))) = _
    rw [hvalues, Entries.ofPairs_of_nodup hnodup]

end Document

end Yaml

end HandlerGen
