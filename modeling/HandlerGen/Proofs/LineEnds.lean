import HandlerGen.Proofs.Kinds
import HandlerGen.Proofs.Rerun
/-!
# Line ends of handler files

A text is kept in a file with a line feed at the end of each line, with a
carriage return, or with both (`LineEnd`, `Text.endedBy`). All three are
the text itself by the time its characters are looked at
(`Text.unifyBreaks_endedBy`), be the lines part of a comment, of a scalar
or empty, and be they the last. So **it does not matter how lines end in
handler files**: they give the same descriptors or the same fault, and a
run prints the same and writes the same bytes
(`Generation.same_for_line_ends`).
-/

namespace HandlerGen

/-- How the lines of a file end. -/
inductive LineEnd
  | lineFeed
  | pair
  | carriageReturn
deriving DecidableEq, Repr

/-- How a line end is spelt. -/
def LineEnd.text : LineEnd → Text
  | lineFeed => ['\n']
  | pair => ['\r', '\n']
  | carriageReturn => ['\r']

namespace Text

variable {t : Text}

/-- A text in a file whose lines end in some way. -/
def endedBy (e : LineEnd) (t : Text) : Text := t.flatMap fun c => if c = '\n' then e.text else [c]

theorem endedBy_cons (e : LineEnd) (c : Char) (t : Text) :
    endedBy e (c :: t) = (if c = '\n' then e.text else [c]) ++ t.endedBy e :=
  List.flatMap_cons

/-- Where carriage returns alone end the lines there is no line feed. -/
theorem head?_endedBy_carriageReturn (t : Text) :
    (t.endedBy .carriageReturn).head? ≠ some '\n' := by
  cases t with
  | nil => simp [endedBy]
  | cons c t =>
    rw [endedBy_cons]
    by_cases hc : c = '\n'
    · simp [hc, LineEnd.text]
    · simp [hc]

theorem unifyBreaks_cons {c : Char} (h : c ≠ '\r') (t : Text) :
    unifyBreaks (c :: t) = c :: unifyBreaks t := by
  rw [unifyBreaks, if_neg h]
  exact fun _ hc => absurd hc h

theorem unifyBreaks_return (h : t.head? ≠ some '\n') :
    unifyBreaks ('\r' :: t) = '\n' :: unifyBreaks t := by
  rw [unifyBreaks, if_pos rfl]
  rintro u - rfl
  exact h rfl

/-- **A line end is taken for a line feed**, if what follows does not go on
with it. -/
theorem unifyBreaks_lineEnd (e : LineEnd) (h : e = .carriageReturn → t.head? ≠ some '\n') :
    unifyBreaks (e.text ++ t) = '\n' :: unifyBreaks t := by
  cases e with
  | lineFeed => exact unifyBreaks_cons (by decide) t
  | pair => rfl
  | carriageReturn => exact unifyBreaks_return (h rfl)

/-- **However the lines of a file end, it is read as the same text.** -/
theorem unifyBreaks_endedBy (e : LineEnd) (h : '\r' ∉ t) : unifyBreaks (t.endedBy e) = t := by
  induction t with
  | nil => rfl
  | cons c t ih =>
    obtain ⟨hc, ht⟩ := not_or.1 (mt List.mem_cons.2 h)
    rw [endedBy_cons]
    by_cases hfeed : c = '\n'
    · rw [if_pos hfeed, unifyBreaks_lineEnd e, ih ht, hfeed]
      rintro rfl
      exact head?_endedBy_carriageReturn t
    · rw [if_neg hfeed, List.singleton_append, unifyBreaks_cons (Ne.symm hc), ih ht]

end Text

namespace FileSystem

variable {fs fs' : FileSystem}

/-- Two states of the files that differ in line ends alone: of files in the
same place either both are the same, or they hold the same text. -/
def DifferInLineEnds (fs fs' : FileSystem) : Prop :=
  ∀ q, fs'.get? q = fs.get? q ∨ ∃ (t : Text) (e e' : LineEnd), '\r' ∉ t
    ∧ fs.get? q = some (.file (Artifact.content (t.endedBy e)))
    ∧ fs'.get? q = some (.file (Artifact.content (t.endedBy e')))

/-- One text in one place, with its lines ended in two ways. -/
theorem differInLineEnds_set {q : Path} (hq : q.names ≠ []) {t : Text} (e e' : LineEnd)
    (ht : '\r' ∉ t) :
    (fs.set q (.file (Artifact.content (t.endedBy e)))).DifferInLineEnds
      (fs.set q (.file (Artifact.content (t.endedBy e')))) := by
  intro r
  rw [get?_set hq, get?_set hq]
  by_cases hr : r = q
  · rw [if_pos hr, if_pos hr]
    exact .inr ⟨t, e, e', ht, rfl, rfl⟩
  · rw [if_neg hr, if_neg hr]
    exact .inl rfl

theorem DifferInLineEnds.sameKinds (h : fs.DifferInLineEnds fs') : fs.SameKinds fs' := by
  intro q
  rcases h q with hsame | ⟨t, e, e', -, hfile, hfile'⟩
  · rw [hsame]
    exact .refl _
  · rw [hfile, hfile']
    exact .file _ _

end FileSystem

namespace HandlerFile

variable {fs fs' : FileSystem} {p : Path} {t : Text}

/-- The source of a file is its text, however its lines end. -/
theorem sourceOf_endedBy (e : LineEnd) (h : '\r' ∉ t) :
    sourceOf (Artifact.content (t.endedBy e)) = .ofText t := by
  rw [sourceOf_content, Text.unifyBreaks_endedBy e h]

theorem readContent_endedBy (p : Path) (e : LineEnd) (h : '\r' ∉ t) :
    readContent p (Artifact.content (t.endedBy e)) = readSource p (.ofText t) := by
  rw [readContent_eq, sourceOf_endedBy e h]

theorem load_of_read_endedBy {e : LineEnd} (h : '\r' ∉ t)
    (hread : fs.read p = .ok (Artifact.content (t.endedBy e))) :
    load fs p = readSource p (.ofText t) := by
  rw [load, hread]
  exact readContent_endedBy p e h

/-- **Files that differ in line ends alone are loaded alike.** -/
theorem load_of_differInLineEnds (h : fs.DifferInLineEnds fs') (p : Path) :
    load fs' p = load fs p := by
  unfold load FileSystem.read
  rw [h.sameKinds.locate_eq]
  cases fs.locate p with
  | error e => rfl
  | ok place =>
    simp only [bind, Except.bind]
    rcases h place with hsame | ⟨t, e, e', ht, hfile, hfile'⟩
    · rw [hsame]
    · rw [hfile, hfile']
      exact (readContent_endedBy p e' ht).trans (readContent_endedBy p e ht).symm

theorem loadAll_of_differInLineEnds (h : fs.DifferInLineEnds fs') (ps : List Path) :
    loadAll fs' ps = loadAll fs ps := by
  rw [loadAll_eq_mapM, loadAll_eq_mapM, funext (load_of_differInLineEnds h)]

end HandlerFile

namespace Generation

open Artifact (content classPath classPlace mapPath mapPlace)

variable {fs fs' : FileSystem} {inputs : List Path} {out : Path}

/-- **What files hold matters to a run by way of its draft alone.** -/
theorem run_alike (hdraft : draft fs' inputs = draft fs inputs) (hkinds : fs.SameKinds fs')
    (out : Path) :
    ∃ files, run fs' inputs out = { run fs inputs out with files }
      ∧ fs.ChangedAlike fs' (run fs inputs out).files files := by
  have hends := ends fs inputs out
  generalize run fs inputs out = r at hends ⊢
  cases hends with
  | refused he hm => exact ⟨fs', (Ends.refused (hdraft.trans he) hm).run_eq, .refl⟩
  | escaped he hm => exact ⟨fs', (Ends.escaped (hdraft.trans he) hm).run_eq, .refl⟩
  | unwritten hd hwrites hm =>
    obtain ⟨files, hwrites', hchanged⟩ := hwrites.alike hkinds
    exact ⟨files, (Ends.unwritten (hdraft.trans hd) hwrites' hm).run_eq, hchanged⟩
  | barred hd hwrites =>
    obtain ⟨files, hwrites', -⟩ := hwrites.alike hkinds
    obtain ⟨-, -, rfl⟩ := hwrites'.of_nullCharacter rfl
    exact ⟨_, (Ends.barred (hdraft.trans hd) hwrites').run_eq, .refl⟩
  | written hd hwrites =>
    obtain ⟨files, hwrites', hchanged⟩ := hwrites.alike hkinds
    exact ⟨files, (Ends.written (hdraft.trans hd) hwrites').run_eq, hchanged⟩

theorem draft_of_differInLineEnds (h : fs.DifferInLineEnds fs') (inputs : List Path) :
    draft fs' inputs = draft fs inputs := by
  rw [draft, draft, HandlerFile.loadAll_of_differInLineEnds h]

/-- Two runs that end well on the same draft write the same bytes. -/
theorem exists_artifact_read_both (hdraft : draft fs' inputs = draft fs inputs)
    (h : (run fs inputs out).status = .ok 0) (h' : (run fs' inputs out).status = .ok 0) :
    ∃ a : Artifact, (run fs inputs out).files.read (classPath out) = .ok (content a.classText)
      ∧ (run fs' inputs out).files.read (classPath out) = .ok (content a.classText)
      ∧ (run fs inputs out).files.read (mapPath out) = .ok (content a.mapText)
      ∧ (run fs' inputs out).files.read (mapPath out) = .ok (content a.mapText) := by
  obtain ⟨d, hd, hwrites, -⟩ := exists_writes h
  obtain ⟨d', hd', hwrites', -⟩ := exists_writes h'
  obtain rfl : d' = d := Except.ok.inj (hd'.symm.trans (hdraft.trans hd))
  exact ⟨d'.artifact, hwrites.read_both.1, hwrites'.read_both.1, hwrites.read_both.2,
    hwrites'.read_both.2⟩

/-- **It does not matter how lines end in handler files.** The characters
that a file is read as are those of its text, so that it gives the same
descriptors or the same fault. Runs on files that differ in line ends alone
end with the same status and print the same. At each place both leave the
same, or what was there; and where they end well, both of their files are
the same byte by byte. -/
theorem same_for_line_ends :
    (∀ (t : Text) (e : LineEnd), '\r' ∉ t →
      HandlerFile.sourceOf (content (t.endedBy e)) = .ofText t)
    ∧ (∀ (t : Text) (e e' : LineEnd), '\r' ∉ t → ∀ (fs fs' : FileSystem) (p : Path),
      fs.read p = .ok (content (t.endedBy e)) → fs'.read p = .ok (content (t.endedBy e')) →
      HandlerFile.load fs' p = HandlerFile.load fs p)
    ∧ ∀ fs fs' : FileSystem, fs.DifferInLineEnds fs' → ∀ (inputs : List Path) (out : Path),
      (run fs' inputs out).status = (run fs inputs out).status
      ∧ (run fs' inputs out).output = (run fs inputs out).output
      ∧ (run fs' inputs out).messages = (run fs inputs out).messages
      ∧ fs.ChangedAlike fs' (run fs inputs out).files (run fs' inputs out).files
      ∧ ((run fs inputs out).status = .ok 0 →
        ∃ a : Artifact, (run fs inputs out).files.read (classPath out) = .ok (content a.classText)
          ∧ (run fs' inputs out).files.read (classPath out) = .ok (content a.classText)
          ∧ (run fs inputs out).files.read (mapPath out) = .ok (content a.mapText)
          ∧ (run fs' inputs out).files.read (mapPath out) = .ok (content a.mapText)) := by
  refine ⟨fun t e ht => HandlerFile.sourceOf_endedBy e ht, fun t e e' ht fs fs' p hp hp' => ?_,
    fun fs fs' h inputs out => ?_⟩
  · rw [HandlerFile.load_of_read_endedBy ht hp, HandlerFile.load_of_read_endedBy ht hp']
  · have hdraft := draft_of_differInLineEnds h inputs
    obtain ⟨files, hrun, hchanged⟩ := run_alike hdraft h.sameKinds out
    have hstatus : (run fs' inputs out).status = (run fs inputs out).status := by rw [hrun]
    refine ⟨hstatus, by rw [hrun], by rw [hrun], by rwa [hrun], fun hok => ?_⟩
    exact exists_artifact_read_both hdraft hok (hstatus.trans hok)

/-- A handler file with line ends behind a comment, in two scalars and
behind them all. -/
def notesText : Text :=
  "# Notes\n\nhandlers:\n- name: get_vm\n  description: |\n    Gets\n\n    the VM.\n"
    ++ "  rpcMethod: \"get\n    VM\"\n\n\n"

/-- What it holds. -/
def notedVm : Descriptor :=
  { Descriptor.getVm with description := "Gets\n\nthe VM.\n", rpcMethod := "get VM" }

/-- A working directory with this file. -/
def notesDesk (e : LineEnd) : FileSystem :=
  FileSystem.set {} HandlerFile.corePath (.file (content (notesText.endedBy e)))

/-- The file gives the same with each line end, and so does a run. -/
theorem same_for_line_ends_notesDesk :
    '\r' ∉ notesText
      ∧ (∀ e, HandlerFile.load (notesDesk e) HandlerFile.corePath = .ok [notedVm])
      ∧ ∀ e e', ∃ a : Artifact,
        (run (notesDesk e) [HandlerFile.corePath] generated).files.read (mapPath generated)
          = .ok (content a.mapText)
        ∧ (run (notesDesk e') [HandlerFile.corePath] generated).files.read (mapPath generated)
          = .ok (content a.mapText) := by
  obtain ⟨-, hload, hrun⟩ := same_for_line_ends
  have hreturn : '\r' ∉ notesText := by decide +kernel
  have hread : ∀ e, (notesDesk e).read HandlerFile.corePath
      = .ok (content (notesText.endedBy e)) := fun _ => rfl
  have hfeed : HandlerFile.load (notesDesk .lineFeed) HandlerFile.corePath = .ok [notedVm] := by
    rw [HandlerFile.load_of_read_endedBy hreturn (hread .lineFeed)]
    decide +kernel
  have hall : ∀ e, HandlerFile.load (notesDesk e) HandlerFile.corePath = .ok [notedVm] :=
    fun e => (hload notesText .lineFeed e hreturn _ _ _ (hread .lineFeed) (hread e)).trans hfeed
  refine ⟨hreturn, hall, fun e e' => ?_⟩
  have hdiffer : (notesDesk e).DifferInLineEnds (notesDesk e') :=
    FileSystem.differInLineEnds_set (by decide) e e' hreturn
  have hstatus : (run (notesDesk e) [HandlerFile.corePath] generated).status = .ok 0 := by
    obtain ⟨c, hc⟩ : ∃ c, Context.ofDescriptors [notedVm] = .ok c := ⟨_, rfl⟩
    have hloads : HandlerFile.loadAll (notesDesk e) [HandlerFile.corePath] = .ok [notedVm] :=
      HandlerFile.loadAll_cons (hall e) rfl
    have hdraft := draft_of_context hloads hc
    have hclass : ((notesDesk e).set generated .directory).get? (classPlace generated) = none := rfl
    have hmap : ((notesDesk e).set generated .directory).get? (mapPlace generated) = none := rfl
    rw [(Ends.written hdraft
      (.both rfl ⟨by decide, hclass.trans_ne (by simp)⟩
        ⟨by decide, hmap.trans_ne (by simp)⟩)).run_eq]
  obtain ⟨-, -, -, -, hboth⟩ := hrun _ _ hdiffer [HandlerFile.corePath] generated
  obtain ⟨a, -, -, hmap, hmap'⟩ := hboth hstatus
  exact ⟨a, hmap, hmap'⟩

end Generation

end HandlerGen
