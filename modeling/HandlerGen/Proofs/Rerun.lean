import HandlerGen.Proofs.Outcome
/-!
# Running again

A run that ends well depends on the files that it reads and on what bars
its way, and on no byte of what its two files held before. So **a second
run on the files that it leaves changes nothing and prints the same**, and
two states that differ in these two files alone are taken to the same
state (`Generation.run_again`). All this needs that no handler file
stands in the place of a generated one.
-/

namespace HandlerGen

/-- Writing what a key has already changes nothing. -/
theorem Entries.put_of_lookup {κ α : Type} [DecidableEq κ] {k : κ} {a : α} {es : List (κ × α)}
    (h : es.lookup k = some a) : put k a es = es := by
  induction es with
  | nil => exact absurd h (by simp)
  | cons e es ih =>
    obtain ⟨k', b⟩ := e
    rw [put]
    by_cases hk : k' = k
    · subst hk
      rw [List.lookup_cons, beq_self_eq_true] at h
      rw [if_pos rfl, Option.some.inj h]
    · rw [List.lookup_cons, beq_eq_false_iff_ne.2 (Ne.symm hk)] at h
      rw [if_neg hk, ih h]

namespace FileSystem

variable {fs fs' : FileSystem} {p q : Path} {b : ByteArray}

/-- Nor does writing a file what it holds. -/
theorem set_of_get? (h : fs.get? q = some (.file b)) : fs.set q (.file b) = fs := by
  have hne : q.names ≠ [] := names_ne_nil (h.trans_ne (by simp))
  rw [get?, if_neg (by rwa [List.isEmpty_iff])] at h
  rw [set, Entries.put_of_lookup h]

/-- A file is still read where it is the same and there are more
directories. -/
theorem read_of_same (hmore : ∀ r, fs.get? r = some .directory → fs'.get? r = some .directory)
    (hsame : fs'.get? p.place = fs.get? p.place) (h : fs.read p = .ok b) : fs'.read p = .ok b := by
  rw [read_eq_ok_iff, look_eq_some_iff] at h ⊢
  exact ⟨locate_mono hmore h.1, hsame.trans h.2⟩

/-! ## Making a way -/

/-- The way to a directory that is there is made without a change. -/
theorem makeDirectories_of_look (h : fs.look p = some .directory) :
    fs.makeDirectories p = (.ok (), fs) := by
  have hensure : fs.ensureDirectory p = .ok fs := by
    rw [ensureDirectory, h]
    cases hmake : fs.makeDirectory p with
    | error e => rfl
    | ok fs₁ =>
      obtain ⟨-, hnone, -⟩ := makeDirectory_eq_ok hmake
      exact absurd (hnone.symm.trans (look_eq_some_iff.1 h).2) (by simp)
  obtain ⟨rooted, names⟩ := p
  rw [makeDirectories]
  cases hnames : names.reverse with
  | nil => rfl
  | cons name names' =>
    have hway : (name :: names').reverse = names := by rw [← hnames, List.reverse_reverse]
    rw [makeWay]
    simp only [hway, hensure]

/-- **What there is once a way is made**: directories at all places that it
passes, and what there was at any other. -/
theorem get?_makeDirectories (h : fs.makeDirectories p = (.ok (), fs')) (q : Path) :
    fs'.get? q = if p.Passes q then some .directory else fs.get? q := by
  by_cases hpass : p.Passes q
  · rw [if_pos hpass]
    exact get?_of_passes h hpass
  · rw [if_neg hpass]
    exact (addsWay_makeDirectories h q).resolve_right fun ⟨_, _, hpass'⟩ => hpass hpass'

/-- A way that can be made is free of files. -/
theorem freeOfFiles_of_makeDirectories (h : fs.makeDirectories p = (.ok (), fs')) :
    fs.FreeOfFiles p := by
  intro q b hpass hfile
  have hfile' : fs'.get? q = some (.file b) := (addsWay_makeDirectories h).get?_file_iff.2 hfile
  rw [get?_makeDirectories h, if_pos hpass] at hfile'
  exact absurd hfile' (by simp)

end FileSystem

namespace HandlerFile

variable {fs fs' : FileSystem} {p : Path}

/-- **Handler files that are read as before are loaded as before.** -/
theorem loadAll_of_reads {ps : List Path} {ds : List Descriptor}
    (hreads : ∀ p ∈ ps, ∀ b, fs.read p = .ok b → fs'.read p = .ok b)
    (h : loadAll fs ps = .ok ds) : loadAll fs' ps = .ok ds := by
  induction ps generalizing ds with
  | nil => exact h
  | cons p ps ih =>
    obtain ⟨ds₁, ds₂, hp, hps, rfl⟩ := exists_of_loadAll_cons h
    obtain ⟨content, hread, hcontent⟩ := load_eq_ok hp
    have hp' : load fs' p = .ok ds₁ := by
      rw [load, hreads p List.mem_cons_self content hread]
      exact hcontent
    exact loadAll_cons hp' (ih (fun q hq => hreads q (List.mem_cons_of_mem p hq)) hps)

end HandlerFile

namespace Artifact

variable {a : Artifact} {out : Path} {fs fs' : FileSystem}

/-- Two states of the files differ in the two places of the generated
files at most. -/
def AgreeApart (out : Path) (fs fs' : FileSystem) : Prop :=
  ∀ q, q ≠ classPlace out → q ≠ mapPlace out → fs'.get? q = fs.get? q

/-- There is no directory in either place. -/
def Open (out : Path) (fs : FileSystem) : Prop :=
  fs.get? (classPlace out) ≠ some .directory ∧ fs.get? (mapPlace out) ≠ some .directory

/-- Directories are the same where neither place has one. -/
theorem AgreeApart.get?_directory (h : AgreeApart out fs fs') (hopen : Open out fs) {q : Path}
    (hq : fs.get? q = some .directory) : fs'.get? q = some .directory := by
  rw [h q (by rintro rfl; exact hopen.1 hq) (by rintro rfl; exact hopen.2 hq), hq]

namespace Writes

/-- **What there is once both files are written**: these two, the way to
them, and what there was. -/
theorem get?_eq (h : Writes a out fs (.ok (), fs')) (q : Path) :
    fs'.get? q = if q = mapPlace out then some (.file (content a.mapText))
      else if q = classPlace out then some (.file (content a.classText))
      else if out.Passes q then some .directory else fs.get? q := by
  cases h with
  | both hmake hclass hmap =>
    rw [get?_set_mapPlace (admits_mapPath_set hclass _ hmap), get?_set_classPlace hclass,
      FileSystem.get?_makeDirectories hmake]

/-- The way to files that are written does not pass their places, and
there was no directory in them. -/
theorem open_of_ok (h : Writes a out fs (.ok (), fs')) :
    ¬ out.Passes (classPlace out) ∧ ¬ out.Passes (mapPlace out) ∧ Open out fs := by
  cases h with
  | both hmake hclass hmap =>
    have hway := FileSystem.addsWay_makeDirectories hmake
    exact ⟨fun hpass => hclass.noDirectory (FileSystem.get?_of_passes hmake hpass),
      fun hpass => hmap.noDirectory (FileSystem.get?_of_passes hmake hpass),
      mt hway.get?_directory hclass.noDirectory, mt hway.get?_directory hmap.noDirectory⟩

theorem freeOfFiles (h : Writes a out fs (.ok (), fs')) : fs.FreeOfFiles out := by
  cases h with
  | both hmake => exact FileSystem.freeOfFiles_of_makeDirectories hmake

/-- **What is written once can be written again** into any state that
differs in the two places at most and has no directories there. -/
theorem exists_of_agreeApart {fs₂ : FileSystem} (h : Writes a out fs (.ok (), fs'))
    (hagree : AgreeApart out fs fs₂) (hopen : Open out fs₂) :
    ∃ fs₂', Writes a out fs₂ (.ok (), fs₂') := by
  obtain ⟨hclass, hmap, -⟩ := h.open_of_ok
  have hfree : fs₂.FreeOfFiles out := by
    intro q b hpass
    rw [hagree q (by rintro rfl; exact hclass hpass) (by rintro rfl; exact hmap hpass)]
    exact h.freeOfFiles q b hpass
  have hlead : out.CanLead := (FileSystem.look_eq_directory_iff.1 h.look_both).1
  obtain ⟨fs₃, hmake⟩ := FileSystem.exists_makeDirectories hlead hfree
  have hkept : ∀ q, ¬ out.Passes q → fs₃.get? q = fs₂.get? q := fun q hpass =>
    (FileSystem.get?_makeDirectories hmake q).trans (if_neg hpass)
  obtain ⟨hshort, hshort'⟩ := h.short_both
  exact ⟨_, .both hmake ⟨hshort, (hkept _ hclass).trans_ne hopen.1⟩
    ⟨hshort', (hkept _ hmap).trans_ne hopen.2⟩⟩

/-- Written into two such states, it leaves the same. -/
theorem get?_eq_of_agreeApart {fs₂ fs₂' : FileSystem} (h : Writes a out fs (.ok (), fs'))
    (h₂ : Writes a out fs₂ (.ok (), fs₂')) (hagree : AgreeApart out fs fs₂) (q : Path) :
    fs₂'.get? q = fs'.get? q := by
  rw [h.get?_eq, h₂.get?_eq]
  split
  · rfl
  · next hmap =>
    split
    · rfl
    · next hclass => rw [hagree q hclass hmap]

/-- What stands elsewhere is read as before. -/
theorem read_of_read (h : Writes a out fs (.ok (), fs')) {p : Path} {b : ByteArray}
    (hclass : p.place ≠ classPlace out) (hmap : p.place ≠ mapPlace out)
    (hread : fs.read p = .ok b) : fs'.read p = .ok b := by
  have hfile : fs.get? p.place = some (.file b) :=
    (FileSystem.look_eq_some_iff.1 (FileSystem.read_eq_ok_iff.1 hread)).2
  have hkept : ∀ q e, fs.get? q = some e → q ≠ classPlace out → q ≠ mapPlace out →
      ¬ out.Passes q ∨ e = .directory → fs'.get? q = some e := by
    intro q e hq hclass hmap hway
    rw [h.get?_eq, if_neg hmap, if_neg hclass]
    rcases hway with hpass | rfl
    · rw [if_neg hpass, hq]
    · rw [hq, ite_self]
  obtain ⟨-, -, hopen⟩ := h.open_of_ok
  refine FileSystem.read_of_same (fun q hq => ?_) ?_ hread
  · exact hkept q _ hq (by rintro rfl; exact hopen.1 hq) (by rintro rfl; exact hopen.2 hq)
      (.inr rfl)
  · exact (hkept _ _ hfile hclass hmap (.inl fun hpass => h.freeOfFiles _ b hpass hfile)).trans
      hfile.symm

/-- **Written over itself, it leaves all as it is.** -/
theorem again (h : Writes a out fs (.ok (), fs')) : Writes a out fs' (.ok (), fs') := by
  obtain ⟨hclass, hmap⟩ := h.get?_both
  obtain ⟨hshort, hshort'⟩ := h.short_both
  have hmake : fs'.makeDirectories out = (.ok (), fs') :=
    FileSystem.makeDirectories_of_look h.look_both
  have hwrites : Writes a out fs' _ := .both hmake ⟨hshort, hclass.trans_ne (by simp)⟩
    ⟨hshort', hmap.trans_ne (by simp)⟩
  rwa [FileSystem.set_of_get? hclass, FileSystem.set_of_get? hmap] at hwrites

end Writes

end Artifact

namespace Generation

open Artifact (AgreeApart Open classPlace mapPlace)

variable {fs fs' : FileSystem} {inputs : List Path} {out : Path} {d : Draft}

/-- No handler file stands in the place of a generated file. -/
def Apart (inputs : List Path) (out : Path) : Prop :=
  ∀ p ∈ inputs, p.place ≠ classPlace out ∧ p.place ≠ mapPlace out

theorem draft_of_reads (hreads : ∀ p ∈ inputs, ∀ b, fs.read p = .ok b → fs'.read p = .ok b)
    (h : draft fs inputs = .ok d) : draft fs' inputs = .ok d := by
  obtain ⟨hds, hc, ha⟩ := draft_eq_ok h
  have hdraft := draft_of_context (HandlerFile.loadAll_of_reads hreads hds) hc
  rw [Context.ofData_data] at ha
  rwa [Except.ok.inj ha] at hdraft

/-- A run that ends well has a draft and writes it. -/
theorem exists_writes (h : (run fs inputs out).status = .ok 0) :
    ∃ d, draft fs inputs = .ok d
      ∧ d.artifact.Writes out fs (.ok (), (run fs inputs out).files)
      ∧ run fs inputs out
        = ⟨.ok 0, Artifact.report out, d.context.warnings, (run fs inputs out).files⟩ := by
  have hends := ends fs inputs out
  generalize run fs inputs out = r at hends h ⊢
  cases hends with
  | refused => exact absurd h (by simp)
  | escaped => exact absurd h (by simp)
  | unwritten => exact absurd h (by simp)
  | barred => exact absurd h (by simp)
  | written hdraft hwrites => exact ⟨_, hdraft, hwrites, rfl⟩

/-- **A run that ends well is repeated without a change, and what the two
files held before does not matter.** A second run on the files that it
leaves does and prints the same and leaves them as they are. From a state
that differs in the places of the two files alone, a run ends well just if
no directory stands there; then it prints the same and leaves the same
files. -/
theorem run_again (hinputs : Apart inputs out) (h : (run fs inputs out).status = .ok 0) :
    run (run fs inputs out).files inputs out = run fs inputs out
    ∧ ∀ fs₂, AgreeApart out fs fs₂ →
      ((run fs₂ inputs out).status = .ok 0 ↔ Open out fs₂)
      ∧ ((run fs₂ inputs out).status = .ok 0 →
        (run fs₂ inputs out).output = (run fs inputs out).output
        ∧ (run fs₂ inputs out).messages = (run fs inputs out).messages
        ∧ ∀ q, (run fs₂ inputs out).files.get? q = (run fs inputs out).files.get? q) := by
  obtain ⟨d, hdraft, hwrites, hrun⟩ := exists_writes h
  obtain ⟨-, -, hopen⟩ := hwrites.open_of_ok
  constructor
  · have hdraft' : draft (run fs inputs out).files inputs = .ok d :=
      draft_of_reads (fun p hp b => hwrites.read_of_read (hinputs p hp).1 (hinputs p hp).2) hdraft
    rw [(Ends.written hdraft' hwrites.again).run_eq, ← hrun]
  · intro fs₂ hagree
    have hdraft₂ : draft fs₂ inputs = .ok d :=
      draft_of_reads (fun p hp b => FileSystem.read_of_same (fun r => hagree.get?_directory hopen)
        (hagree p.place (hinputs p hp).1 (hinputs p hp).2)) hdraft
    constructor
    · constructor
      · intro h₂
        obtain ⟨d₂, -, hwrites₂, -⟩ := exists_writes h₂
        exact hwrites₂.open_of_ok.2.2
      · intro hopen₂
        obtain ⟨fs₂', hwrites₂⟩ := hwrites.exists_of_agreeApart hagree hopen₂
        rw [(Ends.written hdraft₂ hwrites₂).run_eq]
    · intro h₂
      obtain ⟨d₂, hd₂, hwrites₂, hrun₂⟩ := exists_writes h₂
      obtain rfl := Except.ok.inj (hdraft₂.symm.trans hd₂)
      refine ⟨?_, ?_, hwrites.get?_eq_of_agreeApart hwrites₂ hagree⟩
      · rw [hrun, hrun₂]
      · rw [hrun, hrun₂]

/-- A working directory in which the directory of the generated files is
there already, and nothing in it. -/
def clearedDesk : FileSystem :=
  ⟨[(HandlerFile.corePath, .file (Artifact.content HandlerFile.coreText)),
    (generated, .directory)]⟩

/-- The same with some other text in the place of the class file. -/
def staleDesk : FileSystem :=
  clearedDesk.set (classPlace generated) (.file (Artifact.content HandlerFile.coreText))

/-- A run on the one ends well, and so does a second one; a run on the
other leaves no byte of that text. -/
theorem run_again_clearedDesk :
    Apart [HandlerFile.corePath] generated
      ∧ (run clearedDesk [HandlerFile.corePath] generated).status = .ok 0
      ∧ run (run clearedDesk [HandlerFile.corePath] generated).files [HandlerFile.corePath]
        generated = run clearedDesk [HandlerFile.corePath] generated
      ∧ (run staleDesk [HandlerFile.corePath] generated).status = .ok 0
      ∧ ∀ q, (run staleDesk [HandlerFile.corePath] generated).files.get? q
        = (run clearedDesk [HandlerFile.corePath] generated).files.get? q := by
  have hinputs : Apart [HandlerFile.corePath] generated := by
    intro p hp
    obtain rfl := List.mem_singleton.1 hp
    exact ⟨by decide, by decide⟩
  have hstatus : (run clearedDesk [HandlerFile.corePath] generated).status = .ok 0 := by
    obtain ⟨c, hc⟩ : ∃ c, Context.ofDescriptors [.getVm] = .ok c := ⟨_, rfl⟩
    have hload : HandlerFile.loadAll clearedDesk [HandlerFile.corePath] = .ok [.getVm] :=
      HandlerFile.loadAll_cons (HandlerFile.load_core rfl) rfl
    have hopen : Open generated clearedDesk := ⟨nofun, nofun⟩
    rw [(Ends.written (draft_of_context hload hc)
      (.both rfl ⟨by decide, hopen.1⟩ ⟨by decide, hopen.2⟩)).run_eq]
  have hnone : clearedDesk.get? (classPlace generated) = none := rfl
  have hagree : AgreeApart generated clearedDesk staleDesk := fun q hq _ =>
    (FileSystem.get?_set_of_ne_directory (hnone.trans_ne (by simp)) _ q).trans (if_neg hq)
  obtain ⟨hagain, hstale⟩ := run_again hinputs hstatus
  obtain ⟨hiff, hsame⟩ := hstale staleDesk hagree
  have hstatus' : (run staleDesk [HandlerFile.corePath] generated).status = .ok 0 :=
    hiff.2 ⟨nofun, nofun⟩
  exact ⟨hinputs, hstatus, hagain, hstatus', (hsame hstatus').2.2⟩

end Generation

end HandlerGen
