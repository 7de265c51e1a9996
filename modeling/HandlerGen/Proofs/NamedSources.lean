import HandlerGen.Proofs.ClassFileReading
import HandlerGen.Proofs.DispatchReading
import HandlerGen.Proofs.FilesInOrder
import HandlerGen.Proofs.Outcome
/-!
# The files that a header names

The names of the sources are put together from the descriptors, so that a
file is named by its handlers and by nothing else. Of each run of one name
the first counts (`distinct_replicate_append`), and **the headers name the
files that define a handler, in the order of the files and each name once**
(`Generation.named_sources`). An input without handlers is loaded, and no
header names it (`Generation.unnamed_source`).
-/

namespace HandlerGen

/-! ## First places -/

theorem distinct_cons_cons (t : Text) (ts : List Text) :
    distinct (t :: t :: ts) = distinct (t :: ts) := by
  have hself : (t != t) = false := bne_self_eq_false t
  rw [distinct, distinct, List.filter_cons, hself, if_neg Bool.false_ne_true, List.filter_filter]
  simp only [Bool.and_self]

/-- Of a run of one text the first counts. -/
theorem distinct_replicate_append (n : Nat) (t : Text) (ts : List Text) :
    distinct (List.replicate (n + 1) t ++ ts) = distinct (t :: ts) := by
  induction n with
  | zero => rfl
  | succ n ih =>
    rw [List.replicate_succ, List.replicate_succ, List.cons_append, List.cons_append,
      distinct_cons_cons, ← List.cons_append, ← List.replicate_succ, ih]

/-- A list in which no text comes twice is as it is. -/
theorem distinct_of_nodup {ts : List Text} (h : ts.Nodup) : distinct ts = ts := by
  induction ts with
  | nil => rfl
  | cons t ts ih =>
    obtain ⟨hnew, hts⟩ := List.nodup_cons.1 h
    rw [distinct, ih hts, List.filter_eq_self.2]
    intro u hu
    exact bne_iff_ne.2 fun heq => hnew (heq ▸ hu)

/-- The name of a path that a text spells is not empty, if there is
one. -/
theorem Path.ne_nil_of_mem_names {t n : Text} (h : n ∈ (ofText t).names) : n ≠ [] := by
  rintro rfl
  have hkept := (List.mem_filter.1 h).2
  exact absurd hkept (by simp)

namespace HandlerFile

variable {fs : FileSystem} {ps : List Path} {ds : List Descriptor}

/-- Whether a handler file defines a handler. -/
def defines (fs : FileSystem) (p : Path) : Bool :=
  match load fs p with
  | .ok (_ :: _) => true
  | _ => false

theorem defines_iff {p : Path} : defines fs p = true ↔ ∃ d ds, load fs p = .ok (d :: ds) := by
  unfold defines
  cases load fs p with
  | error e => simp
  | ok ds =>
    cases ds with
    | nil => simp
    | cons d ds => simp

/-- The sources of a file's descriptors are one name, as often as there
are descriptors. -/
theorem map_source_of_load {p : Path} (h : load fs p = .ok ds) :
    ds.map Descriptor.source = List.replicate ds.length p.name := by
  refine List.eq_replicate_iff.2 ⟨List.length_map _, fun s hs => ?_⟩
  obtain ⟨d, hd, rfl⟩ := List.mem_map.1 hs
  exact source_of_load h d hd

/-- **The sources of descriptors are the names of the files that define
one**, in the order of the files and each once. -/
theorem distinct_sources (h : loadAll fs ps = .ok ds) :
    distinct (ds.map Descriptor.source) = distinct ((ps.filter (defines fs)).map Path.name) := by
  induction ps generalizing ds with
  | nil =>
    obtain rfl := Except.ok.inj h
    rfl
  | cons p ps ih =>
    obtain ⟨ds₁, ds₂, hp, hps, rfl⟩ := exists_of_loadAll_cons h
    rw [List.map_append, map_source_of_load hp, List.filter_cons]
    cases ds₁ with
    | nil =>
      have hnone : ¬ defines fs p = true := fun hd => by
        obtain ⟨d, ds, hd⟩ := defines_iff.1 hd
        exact absurd (hp.symm.trans hd) (by simp)
      rw [if_neg hnone]
      exact ih hps
    | cons d ds₁ =>
      rw [if_pos (defines_iff.2 ⟨d, ds₁, hp⟩), List.length_cons, distinct_replicate_append,
        List.map_cons, distinct, distinct, ih hps]

/-- The source of a descriptor is the last name of some path. -/
theorem source_of_loadAll (h : loadAll fs ps = .ok ds) :
    ∀ d ∈ ds, ∃ p ∈ ps, p.names.getLast? = some d.source := by
  intro d hd
  obtain ⟨dss, hrow, rfl⟩ := loadAll_eq_ok_iff.1 h
  obtain ⟨ds', hds', hd⟩ := List.mem_flatten.1 hd
  have hresult : Except.ok ds' ∈ ps.map (load fs) :=
    mapM_eq_ok_iff.1 hrow ▸ List.mem_map_of_mem hds'
  obtain ⟨p, hp, hload⟩ := List.mem_map.1 hresult
  refine ⟨p, hp, ?_⟩
  rw [source_of_load hload d hd]
  exact getLast?_names_of_load hload

/-- **A context has the names of the files that define a handler**, where
the paths are spelled by texts. -/
theorem sourceNames_of_loadAll (hps : ∀ p ∈ ps, ∃ t, p = .ofText t) (h : loadAll fs ps = .ok ds) :
    sourceNames ds = distinct ((ps.filter (defines fs)).map Path.name) := by
  have hnamed : ∀ s ∈ ds.map Descriptor.source, (!s.isEmpty) = true := by
    intro s hs
    obtain ⟨d, hd, rfl⟩ := List.mem_map.1 hs
    obtain ⟨p, hp, hlast⟩ := source_of_loadAll h d hd
    obtain ⟨t, rfl⟩ := hps p hp
    have hne : d.source ≠ [] := Path.ne_nil_of_mem_names (List.mem_of_getLast? hlast)
    simpa using hne
  rw [sourceNames, List.filter_eq_self.2 hnamed]
  exact distinct_sources h

end HandlerFile

/-! ## Headers -/

/-- **A file that names its sources**: under the line that forbids changes
there is a line with their names. -/
def NamesSources (content : ByteArray) (names : List Text) : Prop :=
  ∃ rest : Text, content = Artifact.content
    (Text.ofLines ["// GENERATED CODE - DO NOT MODIFY BY HAND",
      "// This file is generated from " ++ List.intercalate ", " names] ++ rest)

namespace NamesSources

theorem of_header {names : List Text} {t rest : Text}
    (h : t = Text.ofLines (headerLines names) ++ rest) :
    NamesSources (Artifact.content t) names := by
  refine ⟨Text.ofLines ["// Run \"generate-rpc-handlers\" to update", ""] ++ rest, ?_⟩
  rw [h, ← List.append_assoc, ← Text.ofLines_append]
  rfl

/-- A file has one such line. -/
theorem unique {content : ByteArray} {ms ns : List Text} (hm : NamesSources content ms)
    (hn : NamesSources content ns) (hms : '\n' ∉ List.intercalate ", " ms)
    (hns : '\n' ∉ List.intercalate ", " ns) :
    List.intercalate ", " ms = List.intercalate ", " ns := by
  obtain ⟨rest, rfl⟩ := hm
  obtain ⟨rest', h⟩ := hn
  have hsplit : ∀ {a b u rest : Text},
      Text.ofLines [a, b ++ u] ++ rest = (a ++ '\n' :: b) ++ (u ++ '\n' :: rest) := by
    intro a b u rest
    simp only [Text.ofLines_cons, Text.ofLines_nil, List.append_assoc, List.cons_append,
      List.nil_append]
  have hline : ∀ {u rest : Text}, '\n' ∉ u → (u ++ '\n' :: rest).takeWhile (· != '\n') = u := by
    intro u rest hu
    have hall : ∀ c ∈ u, (c != '\n') = true := fun c hc => bne_iff_ne.2 (ne_of_mem_of_not_mem hc hu)
    rw [List.takeWhile_append_of_pos hall, List.takeWhile_cons_of_neg (by simp), List.append_nil]
  have htext := Artifact.content_injective h
  rw [hsplit, hsplit] at htext
  calc List.intercalate ", " ms
      = (List.intercalate ", " ms ++ '\n' :: rest).takeWhile (· != '\n') := (hline hms).symm
    _ = (List.intercalate ", " ns ++ '\n' :: rest').takeWhile (· != '\n') := by
      rw [List.append_cancel_left htext]
    _ = List.intercalate ", " ns := hline hns

end NamesSources

namespace Generation

open HandlerFile

variable {fs : FileSystem} {inputs : List Path} {out : Path}

/-- **Both files of a run name the sources of its context.** -/
theorem exists_namesSources (h : (run fs inputs out).status = .ok 0) :
    ∃ ds b b', loadAll fs inputs = .ok ds
      ∧ (run fs inputs out).files.read (Artifact.classPath out) = .ok b
      ∧ (run fs inputs out).files.read (Artifact.mapPath out) = .ok b'
      ∧ NamesSources b (sourceNames ds) ∧ NamesSources b' (sourceNames ds) := by
  have hends := ends fs inputs out
  generalize run fs inputs out = r at hends h ⊢
  cases hends with
  | refused => exact absurd h (by simp)
  | escaped => exact absurd h (by simp)
  | unwritten => exact absurd h (by simp)
  | barred => exact absurd h (by simp)
  | @written d fs' hdraft hwrites =>
    obtain ⟨hload, hcontext, hartifact⟩ := draft_eq_ok hdraft
    obtain ⟨-, -, hsources⟩ := Context.ofDescriptors_cases hcontext
    obtain ⟨hclass, hmap⟩ := hwrites.read_both
    obtain ⟨descriptors, c, artifact⟩ := d
    obtain rfl := Except.ok.inj (c.ofData_data.symm.trans hartifact)
    refine ⟨descriptors, _, _, hload, hclass, hmap, ?_, ?_⟩
    · exact hsources ▸ NamesSources.of_header c.classFile_text
    · exact hsources ▸ NamesSources.of_header c.dispatchMap_text

/-- **The headers name the files that define a handler**, in the order of
the files and each name once, where a run ends well and its inputs are
spelled by texts. So no name is left out if all inputs define a handler,
and of inputs with different names all are named just then. -/
theorem named_sources (hinputs : ∀ p ∈ inputs, ∃ t, p = .ofText t)
    (h : (run fs inputs out).status = .ok 0) :
    ∃ names b b',
      (run fs inputs out).files.read (Artifact.classPath out) = .ok b
      ∧ (run fs inputs out).files.read (Artifact.mapPath out) = .ok b'
      ∧ NamesSources b names ∧ NamesSources b' names
      ∧ names = distinct ((inputs.filter (defines fs)).map Path.name)
      ∧ names.Nodup
      ∧ (∀ n, n ∈ names ↔ ∃ p ∈ inputs, p.name = n ∧ ∃ d ds, load fs p = .ok (d :: ds))
      ∧ ((∀ p ∈ inputs, ∃ d ds, load fs p = .ok (d :: ds)) →
        names = distinct (inputs.map Path.name))
      ∧ ((inputs.map Path.name).Nodup → (names = inputs.map Path.name ↔
        ∀ p ∈ inputs, ∃ d ds, load fs p = .ok (d :: ds))) := by
  obtain ⟨ds, b, b', hload, hclass, hmap, hb, hb'⟩ := exists_namesSources h
  rw [sourceNames_of_loadAll hinputs hload] at hb hb'
  refine ⟨_, b, b', hclass, hmap, hb, hb', rfl, nodup_distinct _, fun n => ?_, fun hall => ?_,
    fun hnodup => ?_⟩
  · rw [mem_distinct, List.mem_map]
    simp only [List.mem_filter, defines_iff]
    constructor
    · rintro ⟨p, ⟨hp, hdefines⟩, hname⟩
      exact ⟨p, hp, hname, hdefines⟩
    · rintro ⟨p, hp, hname, hdefines⟩
      exact ⟨p, ⟨hp, hdefines⟩, hname⟩
  · rw [List.filter_eq_self.2 fun p hp => defines_iff.2 (hall p hp)]
  · have hsub : ((inputs.filter (defines fs)).map Path.name).Sublist (inputs.map Path.name) :=
      List.filter_sublist.map _
    rw [distinct_of_nodup (hnodup.sublist hsub)]
    simp only [← defines_iff]
    constructor
    · intro heq
      have hlength := congrArg List.length heq
      rw [List.length_map, List.length_map] at hlength
      exact List.length_filter_eq_length_iff.1 hlength
    · exact fun hall => by rw [List.filter_eq_self.2 hall]

/-- A run on files that are loaded into the directory of the generated
files ends well if there is nothing in its way. -/
theorem status_of_loadAll {ds : List Descriptor} {c : Context} {fs' : FileSystem}
    (hload : loadAll fs inputs = .ok ds) (hc : Context.ofDescriptors ds = .ok c)
    (hwrite : (⟨c.classFile.text, c.dispatchMap.text⟩ : Artifact).write out fs = (.ok (), fs')) :
    (run fs inputs out).status = .ok 0 := by
  have hwrites := hwrite ▸ Artifact.writes ⟨c.classFile.text, c.dispatchMap.text⟩ out fs
  rw [(Ends.written (draft_of_context hload hc) hwrites).run_eq]

/-- A file that is loaded twice is named once. -/
theorem named_sources_desk :
    (∀ p ∈ [corePath, corePath], ∃ t, p = .ofText t)
      ∧ (run desk [corePath, corePath] generated).status = .ok 0
      ∧ ∃ b b', (run desk [corePath, corePath] generated).files.read (Artifact.classPath generated)
          = .ok b
        ∧ (run desk [corePath, corePath] generated).files.read (Artifact.mapPath generated) = .ok b'
        ∧ NamesSources b ["core.yaml"] ∧ NamesSources b' ["core.yaml"] := by
  have hload : load desk corePath = .ok [.getVm] := load_core rfl
  have hstatus : (run desk [corePath, corePath] generated).status = .ok 0 := by
    obtain ⟨c, hc⟩ : ∃ c, Context.ofDescriptors [.getVm, .getVm] = .ok c := ⟨_, rfl⟩
    obtain ⟨fs', hwrite⟩ : ∃ fs', (⟨c.classFile.text, c.dispatchMap.text⟩ : Artifact).write
        generated desk = (.ok (), fs') := ⟨_, rfl⟩
    exact status_of_loadAll (loadAll_cons hload (loadAll_cons hload rfl)) hc hwrite
  have hinputs : ∀ p ∈ [corePath, corePath], ∃ t, p = .ofText t := by
    simp only [List.forall_mem_cons]
    exact ⟨⟨"core.yaml", by decide⟩, ⟨"core.yaml", by decide⟩, List.forall_mem_nil _⟩
  have hdefines : ∀ p ∈ [corePath, corePath], ∃ d ds, load desk p = .ok (d :: ds) := by
    simp only [List.forall_mem_cons]
    exact ⟨⟨_, _, hload⟩, ⟨_, _, hload⟩, List.forall_mem_nil _⟩
  obtain ⟨names, b, b', hclass, hmap, hb, hb', -, -, -, hall, -⟩ := named_sources hinputs hstatus
  have hnames : names = ["core.yaml"] := (hall hdefines).trans (by decide)
  rw [hnames] at hb hb'
  exact ⟨hinputs, hstatus, b, b', hclass, hmap, hb, hb'⟩

/-- A handler file with no handlers. -/
def emptyPath : Path := ⟨false, ["empty.yaml"]⟩

/-- A working directory with it and another one. -/
def emptyDesk : FileSystem :=
  ⟨[(emptyPath, .file (Artifact.content "handlers: []\n")),
    (corePath, .file (Artifact.content coreText))]⟩

theorem loadAll_emptyDesk : loadAll emptyDesk [emptyPath, corePath] = .ok [.getVm] := by
  have hempty : load emptyDesk emptyPath = .ok [] := by
    have htext : readText emptyPath "handlers: []\n" = .ok [] := by decide +kernel
    exact (load_of_read rfl).trans htext
  exact loadAll_cons hempty (loadAll_cons (load_core rfl) rfl)

theorem status_emptyDesk : (run emptyDesk [emptyPath, corePath] generated).status = .ok 0 := by
  obtain ⟨c, hc⟩ : ∃ c, Context.ofDescriptors [.getVm] = .ok c := ⟨_, rfl⟩
  obtain ⟨fs', hwrite⟩ : ∃ fs', (⟨c.classFile.text, c.dispatchMap.text⟩ : Artifact).write generated
      emptyDesk = (.ok (), fs') := ⟨_, rfl⟩
  exact status_of_loadAll loadAll_emptyDesk hc hwrite

/-- **The file without handlers is loaded, and no header names it.** -/
theorem unnamed_source :
    (run emptyDesk [emptyPath, corePath] generated).status = .ok 0
      ∧ ∀ path ∈ [Artifact.classPath generated, Artifact.mapPath generated], ∀ b,
        (run emptyDesk [emptyPath, corePath] generated).files.read path = .ok b →
        ¬ NamesSources b ["empty.yaml", "core.yaml"] := by
  refine ⟨status_emptyDesk, fun path hpath b hread hnames => ?_⟩
  obtain ⟨ds, b₁, b₂, hload, hclass, hmap, hb₁, hb₂⟩ := exists_namesSources status_emptyDesk
  obtain rfl := Except.ok.inj (loadAll_emptyDesk.symm.trans hload)
  have hcore : NamesSources b ["core.yaml"] := by
    rcases List.mem_cons.1 hpath with rfl | hpath
    · exact Except.ok.inj (hclass.symm.trans hread) ▸ hb₁
    · obtain rfl := List.mem_singleton.1 hpath
      exact Except.ok.inj (hmap.symm.trans hread) ▸ hb₂
  exact absurd (hnames.unique hcore (by decide) (by decide)) (by decide)

end Generation

end HandlerGen
