import HandlerGen.Proofs.Duplicates
import HandlerGen.Proofs.Layout
import HandlerGen.Proofs.Loading
import HandlerGen.Proofs.Writing
/-!
# How a run ends

A run reads, makes a context and lays both files out before it writes
anything: what it is to write is a function of the handler files at its
start (`Generation.draft`). It ends in one of five ways
(`Generation.Ends`, `Generation.ends`). A fault of the draft is reported,
or escapes if it has no wording, and nothing is written; otherwise all
depends on the writing, of which every fault but that of the null character
is reported.

**A run is its draft and then the writing of it** (`Generation.run_spec`):
what it prints, its status and the files that it leaves follow from these
two.
-/

namespace HandlerGen

namespace Generation

/-- What a run has made before it writes. -/
structure Draft where
  descriptors : List Descriptor
  context : Context
  artifact : Artifact

/-- What a run makes of the handler files at some paths: first all are
read, then there is one context of them, and then it is laid out. -/
def draft (fs : FileSystem) (inputs : List Path) : Except RunFault Draft := do
  let descriptors ← (HandlerFile.loadAll fs inputs).mapError .load
  let context ← (Context.ofDescriptors descriptors).mapError .rules
  let artifact ← (Artifact.ofData context.data).mapError .render
  return ⟨descriptors, context, artifact⟩

/-- The report of a fault. -/
def complaint (message : Text) : Text := "Error generating RPC handlers: " ++ message ++ "\n"

variable {fs fs' : FileSystem} {inputs : List Path} {out : Path} {e : RunFault} {d : Draft}

theorem draft_of_loadFault {e : LoadFault} (h : HandlerFile.loadAll fs inputs = .error e) :
    draft fs inputs = .error (.load e) := by
  rw [draft, h]
  rfl

theorem draft_of_handlerFault {ds : List Descriptor} {e : HandlerFault}
    (h : HandlerFile.loadAll fs inputs = .ok ds) (hc : Context.ofDescriptors ds = .error e) :
    draft fs inputs = .error (.rules e) := by
  rw [draft, h]
  simp only [Except.mapError, bind, Except.bind, hc]

/-- Laying out never fails, so that there is a draft of each context. -/
theorem draft_of_context {ds : List Descriptor} {c : Context}
    (h : HandlerFile.loadAll fs inputs = .ok ds) (hc : Context.ofDescriptors ds = .ok c) :
    draft fs inputs = .ok ⟨ds, c, ⟨c.classFile.text, c.dispatchMap.text⟩⟩ := by
  rw [draft, h]
  simp only [Except.mapError, bind, Except.bind, hc, c.ofData_data, pure, Except.pure]

/-- A draft comes from the descriptors of its files, by way of their
context. -/
theorem draft_eq_ok (h : draft fs inputs = .ok d) :
    HandlerFile.loadAll fs inputs = .ok d.descriptors
      ∧ Context.ofDescriptors d.descriptors = .ok d.context
      ∧ Artifact.ofData d.context.data = .ok d.artifact := by
  cases hds : HandlerFile.loadAll fs inputs with
  | error e => exact absurd (h.symm.trans (draft_of_loadFault hds)) (by simp)
  | ok ds =>
    cases hc : Context.ofDescriptors ds with
    | error e => exact absurd (h.symm.trans (draft_of_handlerFault hds hc)) (by simp)
    | ok c =>
      obtain rfl := Except.ok.inj (h.symm.trans (draft_of_context hds hc))
      exact ⟨rfl, hc, c.ofData_data⟩

/-- **How a run ends**: its status, what it prints and the files that it
leaves. -/
inductive Ends (fs : FileSystem) (inputs : List Path) (out : Path) : Outcome → Prop
  /-- The draft fails, and its fault is reported. -/
  | refused {e : RunFault} {message : Text} :
      draft fs inputs = .error e → e.message? = some message →
      Ends fs inputs out ⟨.ok 1, [], complaint message, fs⟩
  /-- The draft fails, and its fault escapes. -/
  | escaped {e : RunFault} :
      draft fs inputs = .error e → e.message? = none → Ends fs inputs out ⟨.error e, [], [], fs⟩
  /-- There is a draft, and the fault of writing it is reported. -/
  | unwritten {d : Draft} {e : FileFault} {message : Text} {fs' : FileSystem} :
      draft fs inputs = .ok d → d.artifact.Writes out fs (.error e, fs') →
      e.message? = some message →
      Ends fs inputs out ⟨.ok 1, [], d.context.warnings ++ complaint message, fs'⟩
  /-- There is a draft, and the path of the directory is not one to be
  followed. That fault escapes, and nothing is written. -/
  | barred {d : Draft} :
      draft fs inputs = .ok d → d.artifact.Writes out fs (.error ⟨.nullCharacter, out⟩, fs) →
      Ends fs inputs out ⟨.error (.files ⟨.nullCharacter, out⟩), [], d.context.warnings, fs⟩
  /-- There is a draft, and it is written. -/
  | written {d : Draft} {fs' : FileSystem} :
      draft fs inputs = .ok d → d.artifact.Writes out fs (.ok (), fs') →
      Ends fs inputs out ⟨.ok 0, Artifact.report out, d.context.warnings, fs'⟩

theorem failed_of_message {message : Text} (hm : e.message? = some message) (messages : Text) :
    failed e messages fs = ⟨.ok 1, [], messages ++ complaint message, fs⟩ := by
  unfold failed complaint
  rw [hm, ← List.append_assoc, ← List.append_assoc]

theorem ends_failed (h : draft fs inputs = .error e) : Ends fs inputs out (failed e [] fs) := by
  cases hm : e.message? with
  | none =>
    rw [failed, hm]
    exact .escaped h hm
  | some message =>
    rw [failed_of_message hm]
    exact .refused h hm

theorem ends_unwritten {e : FileFault} (h : draft fs inputs = .ok d)
    (hwrites : d.artifact.Writes out fs (.error e, fs')) :
    Ends fs inputs out (failed (.files e) d.context.warnings fs') := by
  cases hm : e.message? with
  | none =>
    obtain ⟨-, rfl, rfl⟩ := hwrites.of_nullCharacter (FileFault.message?_eq_none_iff.1 hm)
    exact .barred h hwrites
  | some message =>
    rw [failed_of_message (e := .files e) hm]
    exact .unwritten h hwrites hm

/-- **Every run ends in one of these ways.** -/
theorem ends (fs : FileSystem) (inputs : List Path) (out : Path) :
    Ends fs inputs out (run fs inputs out) := by
  unfold run contextOf
  cases hds : HandlerFile.loadAll fs inputs with
  | error e => exact ends_failed (draft_of_loadFault hds)
  | ok ds =>
    cases hc : Context.ofDescriptors ds with
    | error e =>
      simp only [hc, Except.mapError]
      exact ends_failed (draft_of_handlerFault hds hc)
    | ok c =>
      have hdraft := draft_of_context hds hc
      have hwrites := Artifact.writes ⟨c.classFile.text, c.dispatchMap.text⟩ out fs
      simp only [hc, Except.mapError, generate, c.ofData_data]
      generalize Artifact.write ⟨c.classFile.text, c.dispatchMap.text⟩ out fs = r at hwrites ⊢
      obtain ⟨done, fs'⟩ := r
      cases done with
      | error e =>
        change Ends fs inputs out (failed (.files e) c.warnings fs')
        exact ends_unwritten hdraft hwrites
      | ok u => exact .written hdraft hwrites

/-- A run ends in one way only. -/
theorem Ends.unique {r r' : Outcome} (h : Ends fs inputs out r) (h' : Ends fs inputs out r') :
    r = r' := by
  cases h <;> cases h' <;> grind [Artifact.Writes.unique, FileFault.message?, FileCause.text?]

theorem Ends.run_eq {r : Outcome} (h : Ends fs inputs out r) : run fs inputs out = r :=
  (ends fs inputs out).unique h

/-- The warnings of a draft, one for each repeated name. -/
theorem areRepeated_of_draft (h : draft fs inputs = .ok d) :
    AreRepeated (d.descriptors.map Descriptor.name) d.context.duplicates := by
  obtain ⟨-, hc, -⟩ := draft_eq_ok h
  obtain ⟨-, hduplicates, -⟩ := Context.ofDescriptors_cases hc
  rw [hduplicates]
  exact areRepeated_duplicateNames d.descriptors

/-- The lines that tell where both files are. -/
def pathLines (out : Path) : List Text :=
  ["Generated FlutterRpcHandlers class at: "
      ++ (out.join "flutter_rpc_handlers.generated.ts").text,
    "Generated createRpcHandlerMap function at: "
      ++ (out.join "create_rpc_handler_map.generated.ts").text]

/-- Texts that are each closed by a line feed are lines. -/
theorem append_break_append_break {lf : Text} (h : lf = ['\n']) (s t u v : Text) :
    s ++ t ++ lf ++ u ++ v ++ lf = Text.ofLines [s ++ t, u ++ v] := by
  simp only [h, Text.ofLines, List.flatMap_cons, List.flatMap_nil, List.append_assoc,
    List.append_nil]

theorem report_eq (out : Path) : Artifact.report out = Text.ofLines (pathLines out) :=
  append_break_append_break (by decide) _ _ _ _

/-- **A run is its draft and the writing of it.** Where the draft is
refused, the run reports only that and leaves the files as they are.
Where it is written, both files hold its texts, there is nothing else but
the way to them that is new, and the run prints their paths and a warning
for each repeated name. Only a run that ends well has any output. -/
theorem run_spec (fs : FileSystem) (inputs : List Path) (out : Path) :
    (∀ e message, draft fs inputs = .error e → e.message? = some message →
      run fs inputs out
        = ⟨.ok 1, [], "Error generating RPC handlers: " ++ message ++ "\n", fs⟩)
    ∧ (∀ d fs', draft fs inputs = .ok d → d.artifact.write out fs = (.ok (), fs') →
      AreRepeated (d.descriptors.map Descriptor.name) d.context.duplicates
        ∧ run fs inputs out
          = ⟨.ok 0, Text.ofLines (pathLines out),
              Text.ofLines (d.context.duplicates.map Context.warningLine), fs'⟩
        ∧ fs'.read (Artifact.classPath out) = .ok (Artifact.content d.artifact.classText)
        ∧ fs'.read (Artifact.mapPath out) = .ok (Artifact.content d.artifact.mapText)
        ∧ ∀ q, q ≠ Artifact.classPlace out → q ≠ Artifact.mapPlace out →
          fs'.get? q = fs.get? q
            ∨ fs.get? q = none ∧ fs'.get? q = some .directory ∧ out.Passes q)
    ∧ ((run fs inputs out).output ≠ [] → (run fs inputs out).status = .ok 0) := by
  refine ⟨fun e message h hm => (Ends.refused h hm).run_eq, fun d fs' h hwrite => ?_,
    fun hout => ?_⟩
  · have hwrites : Artifact.Writes d.artifact out fs (.ok (), fs') :=
      hwrite ▸ Artifact.writes d.artifact out fs
    rw [← report_eq, ← d.context.warnings_eq]
    exact ⟨areRepeated_of_draft h, (Ends.written h hwrites).run_eq,
      hwrites.read_both.1, hwrites.read_both.2, fun q => hwrites.get?_of_ne⟩
  · have hends := ends fs inputs out
    generalize run fs inputs out = r at hends hout ⊢
    cases hends with
    | refused => exact absurd rfl hout
    | escaped => exact absurd rfl hout
    | unwritten => exact absurd rfl hout
    | barred => exact absurd rfl hout
    | written => rfl

/-- The directory of the generated files. -/
def generated : Path := ⟨false, ["generated"]⟩

/-- The same file twice defines a name twice, which is told; a file that
is missing is told too. -/
theorem run_spec_desk :
    ∃ d fs', draft HandlerFile.desk [HandlerFile.corePath, HandlerFile.corePath] = .ok d
      ∧ d.artifact.write generated HandlerFile.desk = (.ok (), fs')
      ∧ run HandlerFile.desk [HandlerFile.corePath, HandlerFile.corePath] generated
        = ⟨.ok 0,
            "Generated FlutterRpcHandlers class at: generated/flutter_rpc_handlers.generated.ts\n"
              ++ ("Generated createRpcHandlerMap function at: "
                ++ "generated/create_rpc_handler_map.generated.ts\n"),
            "Warning: handler 'get_vm' is defined more than once; "
              ++ "the last definition wins in the dispatch map\n", fs'⟩
      ∧ fs'.read (Artifact.mapPath generated) = .ok (Artifact.content d.artifact.mapText)
      ∧ run HandlerFile.desk [HandlerFile.corePath, generated] generated
        = ⟨.ok 1, [], "Error generating RPC handlers: "
            ++ ("Handler file not found: " ++ generated.text) ++ "\n", HandlerFile.desk⟩ := by
  have hload : HandlerFile.load HandlerFile.desk HandlerFile.corePath = .ok [.getVm] :=
    HandlerFile.load_core rfl
  obtain ⟨c, hc⟩ : ∃ c, Context.ofDescriptors [.getVm, .getVm] = .ok c := ⟨_, rfl⟩
  have htwice : HandlerFile.loadAll HandlerFile.desk [HandlerFile.corePath, HandlerFile.corePath]
      = .ok [.getVm, .getVm] := HandlerFile.loadAll_cons hload (HandlerFile.loadAll_cons hload rfl)
  have hdraft := draft_of_context htwice hc
  have hmissing : draft HandlerFile.desk [HandlerFile.corePath, generated]
      = .error (.load (.notFound generated)) :=
    draft_of_loadFault ((HandlerFile.loadAll_cons_eq_error_iff hload).2
      (HandlerFile.loadAll_cons_of_error rfl))
  have hmessage : (RunFault.load (.notFound generated)).message?
      = some ("Handler file not found: " ++ generated.text) := by
    rw [RunFault.message?, LoadFault.message?]
  obtain ⟨fs', hwrite⟩ : ∃ fs', (⟨c.classFile.text, c.dispatchMap.text⟩ : Artifact).write generated
      HandlerFile.desk = (.ok (), fs') := ⟨_, rfl⟩
  obtain ⟨-, hwritten, -⟩ := run_spec HandlerFile.desk
    [HandlerFile.corePath, HandlerFile.corePath] generated
  obtain ⟨-, hrun, -, hmap, -⟩ := hwritten _ fs' hdraft hwrite
  obtain ⟨hrefused, -, -⟩ := run_spec HandlerFile.desk [HandlerFile.corePath, generated] generated
  refine ⟨_, fs', hdraft, hwrite, hrun.trans ?_, hmap, hrefused _ _ hmissing hmessage⟩
  obtain ⟨-, hduplicates, -⟩ := Context.ofDescriptors_cases hc
  have hnames : duplicateNames [.getVm, .getVm] = [("get_vm" : Text)] := by decide
  rw [hduplicates, hnames]
  have hpaths : Text.ofLines (pathLines generated)
      = "Generated FlutterRpcHandlers class at: generated/flutter_rpc_handlers.generated.ts\n"
        ++ ("Generated createRpcHandlerMap function at: "
          ++ "generated/create_rpc_handler_map.generated.ts\n") := by decide +kernel
  have hwarning : Text.ofLines ([("get_vm" : Text)].map Context.warningLine)
      = "Warning: handler 'get_vm' is defined more than once; "
        ++ "the last definition wins in the dispatch map\n" := by decide +kernel
  rw [hpaths, hwarning]

end Generation

end HandlerGen
