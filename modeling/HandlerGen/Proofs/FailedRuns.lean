import HandlerGen.Proofs.Outcome
/-!
# Failed runs

A failed run does not touch the files, save in one case: the class file is
written before the dispatch map, and it stays when what bars the dispatch
map makes the run fail. **So a failed run leaves all
files as they were unless it stops halfway**
(`Generation.failed_run`), which does happen
(`Generation.failed_run_writes`).
-/

namespace HandlerGen

/-- The same files are there with the same contents. -/
def FileSystem.SameFiles (fs fs' : FileSystem) : Prop :=
  ∀ q b, fs'.get? q = some (.file b) ↔ fs.get? q = some (.file b)

theorem FileSystem.AddsWay.sameFiles {fs fs' : FileSystem} {p : Path} (h : fs.AddsWay p fs') :
    fs.SameFiles fs' := fun _ _ => h.get?_file_iff

namespace Artifact

variable {a : Artifact} {out : Path} {fs fs' : FileSystem} {e : FileFault}

/-- The class file can be written and changes something, but the dispatch
map is barred once the way has been made: there is a directory in its place,
or its path is too long. -/
def StopsHalfway (a : Artifact) (out : Path) (fs : FileSystem) : Prop :=
  ∃ fs₁ cause, fs.makeDirectories out = (.ok (), fs₁)
    ∧ fs₁.Admits (classPath out) ∧ fs₁.Bars (mapPath out) cause
    ∧ fs.get? (classPlace out) ≠ some (.file (content a.classText))

namespace Writes

/-- What is there when writing has failed: what there was, directories on
the way, and at most the class file. -/
theorem get?_of_error (h : Writes a out fs (.error e, fs')) (q : Path) :
    fs'.get? q = fs.get? q
      ∨ (fs.get? q = none ∧ fs'.get? q = some .directory ∧ out.Passes q)
      ∨ (q = classPlace out ∧ fs'.get? q = some (.file (content a.classText))) := by
  have hway : ∀ {r fs₁}, fs.makeDirectories out = (r, fs₁) → fs₁.get? q = fs.get? q
      ∨ fs.get? q = none ∧ fs₁.get? q = some .directory ∧ out.Passes q :=
    fun hmake => FileSystem.addsWay_makeDirectories hmake q
  cases h with
  | noDirectory hmake => exact (hway hmake).imp_right .inl
  | noClass hmake => exact (hway hmake).imp_right .inl
  | noMap hmake hclass =>
    rw [get?_set_classPlace hclass]
    by_cases hq : q = classPlace out
    · exact .inr (.inr ⟨hq, if_pos hq⟩)
    · rw [if_neg hq]
      exact (hway hmake).imp_right .inl

/-- **Writing that fails leaves the files as they were unless it stops
halfway.** -/
theorem sameFiles_iff (h : Writes a out fs (.error e, fs')) :
    fs.SameFiles fs' ↔ ¬ a.StopsHalfway out fs := by
  cases h with
  | noDirectory hmake =>
    refine iff_of_true (FileSystem.addsWay_makeDirectories hmake).sameFiles ?_
    rintro ⟨fs₁, _, hok, -⟩
    exact absurd (hmake.symm.trans hok) (by simp)
  | noClass hmake hclass =>
    refine iff_of_true (FileSystem.addsWay_makeDirectories hmake).sameFiles ?_
    rintro ⟨fs₁, _, hok, hclass', -⟩
    obtain rfl := (Prod.mk.inj (hmake.symm.trans hok)).2
    exact hclass.not_admits hclass'
  | @noMap cause fs₁ hmake hclass hmap =>
    have hset := get?_set_classPlace hclass (.file (content a.classText))
    constructor
    · rintro hsame ⟨fs₂, _, -, -, -, hchange⟩
      exact hchange ((hsame _ _).1 ((hset _).trans (if_pos rfl)))
    · intro hwhole q b
      by_cases hq : q = classPlace out
      · -- the class file held this very text before
        have hbefore : fs.get? (classPlace out) = some (.file (content a.classText)) :=
          not_not.1 fun hchange => hwhole ⟨fs₁, cause, hmake, hclass, hmap, hchange⟩
        rw [hset, if_pos hq, hq, hbefore]
      · rw [hset, if_neg hq]
        exact (FileSystem.addsWay_makeDirectories hmake).get?_file_iff

end Writes

end Artifact

namespace Generation

variable {fs : FileSystem} {inputs : List Path} {out : Path}

/-- **A failed run leaves all files as they were unless it stops
halfway.** In any case it leaves only what there was, directories on the
way to the generated files, and the class file of its draft. -/
theorem failed_run (h : (run fs inputs out).status = .ok 1) :
    (fs.SameFiles (run fs inputs out).files ↔
        ¬ ∃ d, draft fs inputs = .ok d ∧ d.artifact.StopsHalfway out fs)
      ∧ ∀ q, (run fs inputs out).files.get? q = fs.get? q
        ∨ (fs.get? q = none ∧ (run fs inputs out).files.get? q = some .directory ∧ out.Passes q)
        ∨ (q = Artifact.classPlace out ∧ ∃ d, draft fs inputs = .ok d
            ∧ (run fs inputs out).files.get? q
              = some (.file (Artifact.content d.artifact.classText))) := by
  have hends := ends fs inputs out
  generalize run fs inputs out = r at hends h ⊢
  cases hends with
  | refused hdraft =>
    refine ⟨iff_of_true (fun _ _ => Iff.rfl) ?_, fun _ => .inl rfl⟩
    rintro ⟨d, hd, -⟩
    exact absurd (hdraft.symm.trans hd) (by simp)
  | escaped => exact absurd h (by simp)
  | barred => exact absurd h (by simp)
  | @unwritten d e _ fs' hdraft hwrites =>
    refine ⟨hwrites.sameFiles_iff.trans (not_congr ⟨fun hhalf => ⟨d, hdraft, hhalf⟩, ?_⟩),
      fun q => ?_⟩
    · rintro ⟨d', hd', hhalf⟩
      obtain rfl := Except.ok.inj (hdraft.symm.trans hd')
      exact hhalf
    · exact (hwrites.get?_of_error q).imp_right (Or.imp_right fun ⟨hq, hget⟩ =>
        ⟨hq, d, hdraft, hget⟩)
  | written => exact absurd h (by simp)

/-- A working directory with a directory in the place of the dispatch map. -/
def barredDesk : FileSystem :=
  ⟨[(HandlerFile.corePath, .file (Artifact.content HandlerFile.coreText)),
    (generated, .directory), (Artifact.mapPlace generated, .directory)]⟩

/-- Nothing is there before in the place of the class file. -/
theorem get?_classPlace_barredDesk : barredDesk.get? (Artifact.classPlace generated) = none := rfl

theorem admits_classPath_barredDesk : barredDesk.Admits (Artifact.classPath generated) :=
  ⟨by decide, get?_classPlace_barredDesk.trans_ne (by simp)⟩

theorem bars_mapPath_barredDesk : barredDesk.Bars (Artifact.mapPath generated) .isDirectory :=
  .directory (by decide) rfl

/-- The file that a run reads there is accepted, and its class file is
written before the directory is met. -/
theorem exists_run_barredDesk :
    ∃ d messages, draft barredDesk [HandlerFile.corePath] = .ok d
      ∧ run barredDesk [HandlerFile.corePath] generated
        = ⟨.ok 1, [], messages, barredDesk.set (Artifact.classPlace generated)
            (.file (Artifact.content d.artifact.classText))⟩ := by
  obtain ⟨c, hc⟩ : ∃ c, Context.ofDescriptors [.getVm] = .ok c := ⟨_, rfl⟩
  have hload : HandlerFile.loadAll barredDesk [HandlerFile.corePath] = .ok [.getVm] :=
    HandlerFile.loadAll_cons (HandlerFile.load_core rfl) rfl
  have hdraft := draft_of_context hload hc
  exact ⟨_, _, hdraft, (Ends.unwritten hdraft
    (.noMap rfl admits_classPath_barredDesk bars_mapPath_barredDesk) rfl).run_eq⟩

/-- **A failed run can leave a class file behind** where there was none. -/
theorem failed_run_writes :
    (run barredDesk [HandlerFile.corePath] generated).status = .ok 1
      ∧ barredDesk.get? (Artifact.classPlace generated) = none
      ∧ ∃ b, (run barredDesk [HandlerFile.corePath] generated).files.get?
          (Artifact.classPlace generated) = some (.file b) := by
  obtain ⟨d, messages, -, hrun⟩ := exists_run_barredDesk
  rw [hrun]
  exact ⟨rfl, get?_classPlace_barredDesk, _, rfl⟩

/-- It is the run that stops halfway there. -/
theorem failed_run_barredDesk :
    (run barredDesk [HandlerFile.corePath] generated).status = .ok 1
      ∧ ¬ barredDesk.SameFiles (run barredDesk [HandlerFile.corePath] generated).files := by
  obtain ⟨d, messages, hdraft, hrun⟩ := exists_run_barredDesk
  have hstatus : (run barredDesk [HandlerFile.corePath] generated).status = .ok 1 := by rw [hrun]
  have hhalf : d.artifact.StopsHalfway generated barredDesk :=
    ⟨barredDesk, _, rfl, admits_classPath_barredDesk, bars_mapPath_barredDesk,
      get?_classPlace_barredDesk.trans_ne (by simp)⟩
  exact ⟨hstatus, fun hsame => (failed_run hstatus).1.1 hsame ⟨d, hdraft, hhalf⟩⟩

end Generation

end HandlerGen
