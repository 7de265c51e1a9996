import HandlerGen.Proofs.Writing
import HandlerGen.Proofs.WrittenFile
/-!
# Files and records in order

Both loops of loading are rows of steps: one over the records of a file
(`HandlerFile.readRecords_eq_ok_iff`, `readRecords_eq_error_iff`), and one
over the files (`HandlerFile.loadAll_append`). So nothing is dropped,
merged or moved. **Files that are loaded give a descriptor for each record
of each, in order, and of those that are refused the first decides**, with
the first of its records that is refused (`HandlerFile.loads_in_order`).
-/

namespace HandlerGen

/-- A file is at the end of some name. -/
theorem FileSystem.names_ne_nil_of_read {fs : FileSystem} {p : Path} {b : ByteArray}
    (h : fs.read p = .ok b) : p.names ≠ [] := by
  intro hnames
  have hlook : fs.look p = some (.file b) := read_eq_ok_iff.1 h
  obtain ⟨rooted, names⟩ := p
  obtain rfl : names = [] := hnames
  exact absurd ((look_start rooted).symm.trans hlook) (by simp)

namespace HandlerFile

variable {fs : FileSystem} {p : Path} {vs : List Value} {ds : List Descriptor}

/-! ## One file -/

/-- **What a handler file holds**: it is a mapping with a list of records
under the key `handlers`. -/
def Holds (fs : FileSystem) (p : Path) (vs : List Value) : Prop :=
  ∃ content es, fs.read p = .ok content
    ∧ Yaml.load depth (sourceOf content) = .ok (.dict es)
    ∧ es.lookup (.text "handlers") = some (.list vs)

theorem load_of_holds (h : Holds fs p vs) : load fs p = readRecords p.name 0 vs := by
  obtain ⟨content, es, hread, hload, hlookup⟩ := h
  have hsource : readSource p (sourceOf content) = readRoot p.name (.dict es) := by
    unfold readSource
    simp only [hload]
  have hroot : readRoot p.name (.dict es) = readRecords p.name 0 vs := by
    rw [readRoot, hlookup]
  rw [load, hread]
  exact (readContent_eq p content).trans (hsource.trans hroot)

theorem holds_of_load (h : load fs p = .ok ds) : ∃ vs, Holds fs p vs := by
  obtain ⟨content, hread, hcontent⟩ := load_eq_ok h
  rw [readContent_eq] at hcontent
  unfold readSource at hcontent
  split at hcontent
  · exact absurd hcontent (by simp)
  · exact absurd hcontent (by simp)
  · exact absurd hcontent (by simp)
  · next v hload =>
    unfold readRoot at hcontent
    split at hcontent
    · next es =>
      split at hcontent
      · next vs hlookup => exact ⟨vs, content, es, hread, hload, hlookup⟩
      · exact absurd hcontent (by simp)
    · exact absurd hcontent (by simp)

/-- **A file that is loaded gives a descriptor for each of its records.** -/
theorem load_eq_ok_iff :
    load fs p = .ok ds ↔ ∃ vs, Holds fs p vs ∧ vs.map (Descriptor.ofValue p.name) = ds.map .ok := by
  constructor
  · intro h
    obtain ⟨vs, hvs⟩ := holds_of_load h
    exact ⟨vs, hvs, readRecords_eq_ok_iff.1 ((load_of_holds hvs).symm.trans h)⟩
  · rintro ⟨vs, hvs, hrow⟩
    exact (load_of_holds hvs).trans (readRecords_of_ok hrow)

/-- The descriptors of a file have its name. -/
theorem source_of_load (h : load fs p = .ok ds) : ∀ d ∈ ds, d.source = p.name := by
  intro d hd
  obtain ⟨vs, -, hrow⟩ := load_eq_ok_iff.1 h
  have hresult : Except.ok d ∈ vs.map (Descriptor.ofValue p.name) :=
    hrow ▸ List.mem_map_of_mem hd
  obtain ⟨v, -, hv⟩ := List.mem_map.1 hresult
  obtain ⟨record, -, hsource, -⟩ := Descriptor.ofValue_cases hv
  exact hsource

/-- A file that is loaded has a name. -/
theorem getLast?_names_of_load (h : load fs p = .ok ds) : p.names.getLast? = some p.name := by
  obtain ⟨content, hread, -⟩ := load_eq_ok h
  rw [Path.name, List.getLast?_eq_some_getLast (FileSystem.names_ne_nil_of_read hread),
    Option.getD_some]

/-! ## Several files -/

/-- **Loading takes lists of files apart**, and the first fault decides. -/
theorem loadAll_append (fs : FileSystem) (ps qs : List Path) :
    loadAll fs (ps ++ qs) = do
      let ds ← loadAll fs ps
      let es ← loadAll fs qs
      return ds ++ es := by
  rw [loadAll_eq_mapM, loadAll_eq_mapM, loadAll_eq_mapM, List.mapM_append]
  cases ps.mapM (load fs) with
  | error e => rfl
  | ok dss =>
    cases qs.mapM (load fs) with
    | error e => rfl
    | ok ess => exact congrArg Except.ok List.flatten_append

/-- **Loading keeps to the order of the files and of their records.** Two
lists of files are loaded one after the other, and the first fault decides.
What they give are the descriptors of each file, one for each record in the
order of the records, with the last name of its path as their source. A
file with records that are refused is refused for the first of these, with
its place in the list. -/
theorem loads_in_order (fs : FileSystem) :
    (∀ ps qs, loadAll fs (ps ++ qs) = do
      let ds ← loadAll fs ps
      let es ← loadAll fs qs
      return ds ++ es)
    ∧ (∀ ps ds, loadAll fs ps = .ok ds ↔
      ∃ dss : List (List Descriptor), ps.map (load fs) = dss.map .ok ∧ ds = dss.flatten)
    ∧ (∀ p ds, load fs p = .ok ds ↔
      ∃ vs, Holds fs p vs ∧ vs.map (Descriptor.ofValue p.name) = ds.map .ok)
    ∧ (∀ p ds, load fs p = .ok ds → ∀ d ∈ ds, p.names.getLast? = some d.source)
    ∧ ∀ p vs, Holds fs p vs → ∀ e, load fs p = .error e ↔
      ∃ before v after fault, vs = before ++ v :: after
        ∧ (∀ b ∈ before, ∃ d, Descriptor.ofValue p.name b = .ok d)
        ∧ Descriptor.ofValue p.name v = .error fault
        ∧ e = .record p.name before.length fault := by
  refine ⟨loadAll_append fs, fun ps ds => ?_, fun p ds => load_eq_ok_iff,
    fun p ds h d hd => ?_, fun p vs hvs e => ?_⟩
  · simp only [loadAll_eq_ok_iff, mapM_eq_ok_iff]
  · rw [source_of_load h d hd]
    exact getLast?_names_of_load h
  · rw [load_of_holds hvs, readRecords_eq_error_iff]
    simp only [Nat.zero_add]

/-- A written file holds the records that are written. -/
theorem holds_written (hread : fs.read p = .ok (Artifact.content (written ds))) :
    Holds fs p (ds.map fun d => .dict d.record) := by
  have hload : Yaml.load depth (sourceOf (Artifact.content (written ds)))
      = .ok (.dict [(.text "handlers", .list (ds.map fun d => .dict d.record))]) := by
    rw [sourceOf_content]
    exact load_written_value ds
  exact ⟨_, _, hread, hload, List.lookup_cons_self⟩

/-- The path of another handler file. -/
def draftPath : Path := ⟨false, ["drafts", "core.yaml"]⟩

/-- A handler whose name is not in snake case. -/
def camelVm : Descriptor := { Descriptor.getVm with name := "getVm" }

/-- A working directory with two handler files, one of which has this
handler. -/
def draftDesk : FileSystem :=
  ⟨[(corePath, .file (Artifact.content (written [.hotReload, .getVm]))),
    (⟨false, ["drafts"]⟩, .directory),
    (draftPath, .file (Artifact.content (written [.getVm, camelVm, .hotReload])))]⟩

/-- The file without it gives all its handlers twice if it is loaded twice,
and the other one is refused for its second record. -/
theorem loads_in_order_draftDesk :
    loadAll draftDesk ([corePath] ++ [corePath]) = .ok [.hotReload, .getVm, .hotReload, .getVm]
      ∧ loadAll draftDesk ([corePath] ++ [draftPath])
        = .error (.record "core.yaml" 1 (.nameShape "getVm")) := by
  obtain ⟨happend, -, -, -, hfirst⟩ := loads_in_order draftDesk
  have hcore : loadAll draftDesk [corePath] = .ok [.hotReload, .getVm] := by
    have hread : draftDesk.read corePath
        = .ok (Artifact.content (written [.hotReload, .getVm])) := rfl
    exact loadAll_cons (load_written hread (by decide)) rfl
  have hdraft : load draftDesk draftPath = .error (.record "core.yaml" 1 (.nameShape "getVm")) := by
    have hholds : Holds draftDesk draftPath
        ([Descriptor.getVm, camelVm, .hotReload].map fun d => .dict d.record) :=
      holds_written rfl
    refine (hfirst draftPath _ hholds _).2
      ⟨[.dict Descriptor.getVm.record], .dict camelVm.record, [.dict Descriptor.hotReload.record],
        .nameShape "getVm", rfl, List.forall_mem_singleton.2 ?_, rfl, rfl⟩
    exact ⟨_, Descriptor.ofValue_record (Descriptor.accepted_iff.1 Descriptor.accepted_getVm) _⟩
  refine ⟨?_, ?_⟩
  · rw [happend, hcore]
    rfl
  · rw [happend, hcore, loadAll_cons_of_error hdraft]
    rfl

end HandlerFile

end HandlerGen
