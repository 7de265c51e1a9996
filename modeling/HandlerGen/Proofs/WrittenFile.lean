import HandlerGen.Proofs.FlowParsing
import HandlerGen.Proofs.FlowValues
import HandlerGen.Proofs.Loading
/-!
# Written handler files are read back

Each stage of reading a handler file undoes what the writer did: the lexer
gives the tokens (`Spells`), the reader of nodes their tree
(`Document.SpellsNode`), and the tree has the value that was meant
(`Document.Makes`). `Writes` says this of the tokens of one value. It holds
of texts and truth values, and goes from items to lists and from values to
mappings with different keys.

So the value of a written file is the mapping with the records of the
descriptors in it, and **a file can be written for every list of
descriptors that pass the checks, from which just this list is read**
(`HandlerFile.load_written`).
-/

namespace HandlerGen

namespace Yaml

/-! ## Values -/

/-- Tokens whose spelling is read as a value, its parts down to a depth. -/
structure Writes (ts : List Token) (k : Nat) (v : Value) : Prop where
  spells : Spells (Flow.item ts)
  node : Document.SpellsNode ts (fun n => Document.Makes n k v)

variable {k : Nat} {γ : Type} {gs : List γ} {ts : γ → List Token} {key : γ → Text} {v : γ → Value}

theorem writes_text (t : Text) (k : Nat) : Writes (Flow.text t) k (.scalar (.text t)) where
  spells := (Spells.text t).append Spells.flowEntry
  node := by
    refine (Document.spellsNode_scalar t false).mono ?_
    rintro n ⟨place, rfl⟩
    exact Document.makes_text place t k

theorem writes_flag (b : Bool) (k : Nat) : Writes (Flow.flag b) k (.scalar (.bool b)) where
  spells := Spells.flag b
  node := by
    have htag : Tag.ofPlain (flagWord b) = .bool := by cases b <;> decide
    refine (Document.spellsNode_scalar (flagWord b) true).mono ?_
    rintro n ⟨place, rfl⟩
    rw [if_pos rfl, htag]
    exact Document.makes_flag place b k

theorem spells_items (h : ∀ g ∈ gs, Writes (ts g) k (v g)) :
    Spells ((gs.map ts).flatMap Flow.item) := by
  rw [List.flatMap_map]
  exact Spells.flatMap fun g hg => (h g hg).spells

theorem spells_entries (h : ∀ g ∈ gs, Writes (ts g) k (v g)) :
    Spells ((gs.map fun g => (key g, ts g)).flatMap Flow.entry) := by
  rw [List.flatMap_map]
  exact Spells.flatMap fun g hg => Spells.entry (h g hg).spells

/-- **A list is written by its items.** -/
theorem writes_listed (h : ∀ g ∈ gs, Writes (ts g) k (v g)) :
    Writes (Flow.listed (gs.map ts)) (k + 1) (.list (gs.map v)) where
  spells := (Flow.Collection.sequence _).spells (spells_items h)
  node := by
    refine (Document.spellsNode_listed fun g hg => (h g hg).node).mono ?_
    rintro n ⟨place, items, rfl, hitems⟩
    exact Document.makes_list hitems

/-- **A mapping is written by its entries**, if no key stands twice. -/
theorem writes_mapped (h : ∀ g ∈ gs, Writes (ts g) k (v g)) (hkeys : (gs.map key).Nodup) :
    Writes (Flow.mapped (gs.map fun g => (key g, ts g))) (k + 1)
      (.dict (gs.map fun g => (.text (key g), v g))) where
  spells := (Flow.Collection.mapping _).spells (spells_entries h)
  node := by
    refine (Document.spellsNode_mapped fun g hg => (h g hg).node).mono ?_
    rintro n ⟨place, es, rfl, hes⟩
    exact Document.makes_dict hes hkeys

/-! ## Sources -/

/-- A text from the space to the tilde is a source. -/
theorem ofText_of_isBasic {t : Text} (h : MadeOf isBasic t) :
    Source.ofText t.unifyBreaks = ⟨t, none⟩ := by
  have hcontent : ∀ c ∈ t, isContentCharacter c = true := by
    intro c hc
    have hbasic := h c hc
    rw [isBasic, Bool.and_eq_true, decide_eq_true_iff, decide_eq_true_iff] at hbasic
    have hlow : 0x20 ≤ c.toNat := hbasic.1
    have hhigh : c.toNat ≤ 0x7E := hbasic.2
    simp [isContentCharacter, hlow, hhigh]
  rw [Text.unifyBreaks_of_notMem (h.notMem (by decide))]
  exact Source.ofText_of_all (List.all_eq_true.2 hcontent)

/-- **The spelling of a collection is read as its value.** -/
theorem load_of_collection {us inner : List Token} {w : Value} (hus : Flow.Collection us inner)
    (hinner : Spells inner) (hnode : Document.SpellsNode us (fun n => Document.Makes n k w)) :
    load k (.ofText (Text.unifyBreaks (spelled us))) = .ok w := by
  obtain ⟨doc, hdoc, hroot, hanchors⟩ :=
    Document.ofTokens_of_spellsNode hnode (hus.tokens_ofText hinner)
  have hmade : doc.made = .ok {} := Document.made_of_root hanchors (hroot.made doc)
  have hdocument : Source.document ⟨spelled us, none⟩ = .ok doc := by
    rw [Source.document]
    simp only [hdoc]
  have hvalue : doc.value k = .ok w := by
    rw [Document.value, hmade]
    exact congrArg Except.ok (hroot.value doc)
  rw [ofText_of_isBasic (isBasic_spelled (hus.basic hinner)), load, hdocument]
  exact hvalue

end Yaml

/-! ## Handler files -/

namespace Descriptor

/-- **A record is read from its tokens.** -/
theorem writes_record (d : Descriptor) : Yaml.Writes d.tokens 2 (.dict d.record) := by
  have hparameters : Yaml.Writes
      (Yaml.Flow.mapped (d.parameters.entries.map fun e => (e.1, Yaml.Flow.text e.2))) 1
      (.dict (d.parameters.entries.map fun e => (.text e.1, .scalar (.text e.2)))) :=
    Yaml.writes_mapped (fun e _ => Yaml.writes_text e.2 0) d.parameters.nodup
  let fields : List (Text × List Yaml.Token × Value) :=
    [("name", Yaml.Flow.text d.name, .scalar (.text d.name)),
      ("description", Yaml.Flow.text d.description, .scalar (.text d.description)),
      ("rpcMethod", Yaml.Flow.text d.rpcMethod, .scalar (.text d.rpcMethod)),
      ("needsDebugVerification", Yaml.Flow.flag d.needsDebugVerification,
        .scalar (.bool d.needsDebugVerification)),
      ("needsDartServiceExtensionProxy", Yaml.Flow.flag d.needsDartServiceExtensionProxy,
        .scalar (.bool d.needsDartServiceExtensionProxy)),
      ("responseWrapper", Yaml.Flow.flag d.responseWrapper, .scalar (.bool d.responseWrapper)),
      ("parameters",
        Yaml.Flow.mapped (d.parameters.entries.map fun e => (e.1, Yaml.Flow.text e.2)),
        .dict (d.parameters.entries.map fun e => (.text e.1, .scalar (.text e.2))))]
  have hfields : ∀ g ∈ fields, Yaml.Writes g.2.1 1 g.2.2 := by
    simp only [fields, List.forall_mem_cons]
    exact ⟨Yaml.writes_text _ 1, Yaml.writes_text _ 1, Yaml.writes_text _ 1, Yaml.writes_flag _ 1,
      Yaml.writes_flag _ 1, Yaml.writes_flag _ 1, hparameters,
      fun g hg => absurd hg List.not_mem_nil⟩
  have hkeys : (["name".toList, "description".toList, "rpcMethod".toList,
      "needsDebugVerification".toList, "needsDartServiceExtensionProxy".toList,
      "responseWrapper".toList, "parameters".toList] : List Text).Nodup := by decide
  have hrecord : Yaml.Writes (Yaml.Flow.mapped (fields.map fun g => (g.1, g.2.1))) 2
      (.dict (fields.map fun g => (.text g.1, g.2.2))) := Yaml.writes_mapped hfields hkeys
  exact hrecord

end Descriptor

namespace HandlerFile

/-- **A written file is read as the mapping with the records in it.** -/
theorem load_written_value (ds : List Descriptor) :
    Yaml.load depth (.ofText (Text.unifyBreaks (written ds)))
      = .ok (.dict [(.text "handlers", .list (ds.map fun d => .dict d.record))]) := by
  have hlist : Yaml.Writes (Yaml.Flow.listed (ds.map Descriptor.tokens)) 3
      (.list (ds.map fun d => .dict d.record)) :=
    Yaml.writes_listed fun d _ => d.writes_record
  have hitem : ∀ k ∈ ["handlers".toList], Yaml.Writes
      (Yaml.Flow.listed (ds.map Descriptor.tokens)) 3 (.list (ds.map fun d => .dict d.record)) :=
    fun _ _ => hlist
  have hinner : Yaml.Spells ((["handlers".toList].map fun k =>
      (k, Yaml.Flow.listed (ds.map Descriptor.tokens))).flatMap Yaml.Flow.entry) :=
    Yaml.spells_entries hitem
  have hmapped : Yaml.Writes (Yaml.Flow.mapped (["handlers".toList].map fun k =>
        (k, Yaml.Flow.listed (ds.map Descriptor.tokens)))) 4
      (.dict (["handlers".toList].map fun k =>
        (.text k, .list (ds.map fun d => .dict d.record)))) :=
    Yaml.writes_mapped hitem (by decide)
  exact Yaml.load_of_collection (.mapping _) hinner hmapped.node

/-- Records are read back one by one. -/
theorem readRecords_map {source : Text} {ds : List Descriptor} (h : ∀ d ∈ ds, d.PassesChecks)
    (index : Nat) :
    readRecords source index (ds.map fun d => .dict d.record)
      = .ok (ds.map fun d => { d with source }) := by
  refine readRecords_of_ok ?_
  rw [List.map_map, List.map_map]
  exact List.map_congr_left fun d hd => Descriptor.ofValue_record (h d hd) source

/-- **For every list of descriptors with snake-case names, descriptions and
remote methods that show, and parameters that are identifiers, just this
list is read from the file that is written for it**: in its order, with all
texts, flags, parameters and rules as they are, and with the name of the
file as the source of each. -/
theorem load_written {fs : FileSystem} {path : Path} {ds : List Descriptor}
    (hread : fs.read path = .ok (Artifact.content (written ds)))
    (hds : ∀ d ∈ ds, d.name.readsAsSnakeCase = true ∧ d.description.isBlank = false
      ∧ d.rpcMethod.isBlank = false
      ∧ ∀ p ∈ d.parameters.entries.map Prod.fst, p.readsAsIdentifier = true) :
    load fs path = .ok (ds.map fun d => { d with source := path.name }) := by
  have hchecks : ∀ d ∈ ds, d.PassesChecks := by
    intro d hd
    obtain ⟨hname, hdescription, hrpcMethod, hparameters⟩ := hds d hd
    exact ⟨hname, Text.isBlank_of_readsAsSnakeCase hname, hdescription, hrpcMethod,
      hparameters⟩
  have hroot : readRoot path.name
      (.dict [(.text "handlers", .list (ds.map fun d => .dict d.record))])
      = readRecords path.name 0 (ds.map fun d => .dict d.record) := by
    rw [readRoot, List.lookup_cons, beq_self_eq_true]
  have hsource : readSource path (.ofText (Text.unifyBreaks (written ds)))
      = readRoot path.name
        (.dict [(.text "handlers", .list (ds.map fun d => .dict d.record))]) := by
    unfold readSource
    simp only [load_written_value]
  rw [load_of_read hread, readText, hsource, hroot]
  exact readRecords_map hchecks 0

/-- A working directory with a written file. -/
def writtenDesk : FileSystem :=
  ⟨[(corePath, .file (Artifact.content (written [.hotReload, .getVm])))]⟩

/-- Quotes, line ends and the marks of comments are read back from it. -/
theorem load_written_desk :
    writtenDesk.read corePath = .ok (Artifact.content (written [.hotReload, .getVm]))
      ∧ load writtenDesk corePath = .ok [.hotReload, .getVm] := by
  have hread : writtenDesk.read corePath
      = .ok (Artifact.content (written [.hotReload, .getVm])) := rfl
  have hds : ∀ d ∈ [Descriptor.hotReload, .getVm], d.name.readsAsSnakeCase = true
      ∧ d.description.isBlank = false ∧ d.rpcMethod.isBlank = false
      ∧ ∀ p ∈ d.parameters.entries.map Prod.fst, p.readsAsIdentifier = true := by decide
  exact ⟨hread, load_written hread hds⟩

end HandlerFile

end HandlerGen
