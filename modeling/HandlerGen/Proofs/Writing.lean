import HandlerGen.Generation
import HandlerGen.Proofs.Ways
/-!
# Writing both files

Writing ends in one of four ways (`Artifact.Writes`, `Artifact.writes`):
the directory cannot be made, the class file is barred, the dispatch map is
barred, or both files are written. What bars a file is a directory in its
place or a path that is too long (`FileSystem.Bars`). In the third way the
class file has been written by then, so that **only what bars the dispatch
map makes writing stop halfway**.

Apart from the two places, writing only adds the way to the directory
(`Artifact.Writes.get?_of_ne`), and once it has succeeded both files are
read as they were written (`Artifact.Writes.read_both`).
-/

namespace HandlerGen

namespace FileSystem

variable {fs : FileSystem} {p q : Path} {name : Text}

/-- A file in place of what is no directory bars no way. -/
theorem look_set (hlook : fs.look p = some .directory) (hq : fs.get? q ≠ some .directory)
    (e : FileEntry) : (fs.set q e).look p = some .directory := by
  obtain ⟨hlead, hway⟩ := look_eq_directory_iff.1 hlook
  refine look_eq_directory_iff.2 ⟨hlead, fun r hr => ?_⟩
  have hdir : fs.get? r = some .directory := hway r hr
  rw [get?_set_of_ne_directory hq, if_neg (by rintro rfl; exact hq hdir), hdir]

/-- A file can be put at a path, once there is a directory for it. -/
structure Admits (fs : FileSystem) (p : Path) : Prop where
  short : p.isLong = false
  noDirectory : fs.get? p.place ≠ some .directory

/-- What bars a file from a path, though there is a directory for it. -/
inductive Bars (fs : FileSystem) (p : Path) : FileCause → Prop
  | long : p.isLong = true → Bars fs p .nameTooLong
  | directory : p.isLong = false → fs.get? p.place = some .directory → Bars fs p .isDirectory

theorem admits_or_bars (fs : FileSystem) (p : Path) : fs.Admits p ∨ ∃ cause, fs.Bars p cause := by
  by_cases hlong : p.isLong = true
  · exact .inr ⟨_, .long hlong⟩
  · rw [Bool.not_eq_true] at hlong
    by_cases hdir : fs.get? p.place = some .directory
    · exact .inr ⟨_, .directory hlong hdir⟩
    · exact .inl ⟨hlong, hdir⟩

namespace Bars

variable {cause cause' : FileCause}

theorem not_admits (h : fs.Bars p cause) : ¬ fs.Admits p := by
  rintro ⟨hshort, hdir⟩
  cases h with
  | long hlong => exact absurd (hshort.symm.trans hlong) (by decide)
  | directory _ hdir' => exact hdir hdir'

theorem unique (h : fs.Bars p cause) (h' : fs.Bars p cause') : cause = cause' := by
  cases h <;> cases h' <;> simp_all

theorem ne_nullCharacter (h : fs.Bars p cause) : cause ≠ .nullCharacter := by
  cases h <;> simp

end Bars

section Join

variable (hlook : fs.look p = some .directory) (hname : Path.CanName name)
include hlook hname

theorem locate_join (hshort : (p.join name).isLong = false) :
    fs.locate (p.join name) = .ok (p.join name).place :=
  locate_join_iff.2 ⟨hlook, ⟨hname, hshort⟩, rfl⟩

theorem locate_join_of_isLong (hlong : (p.join name).isLong = true) :
    fs.locate (p.join name) = .error ⟨.nameTooLong, p.join name⟩ := by
  obtain ⟨⟨hnames, -⟩, -⟩ := look_eq_directory_iff.1 hlook
  have hnull : (p.join name).holdsNull = false := by
    rw [Path.holdsNull_eq_false_iff, Path.join, List.forall_mem_append, List.forall_mem_singleton]
    exact ⟨fun n hn => (hnames n hn).1, hname.1⟩
  rw [locate, hnull, hlong, if_neg Bool.false_ne_true, if_pos rfl]

theorem write_join (h : fs.Admits (p.join name)) (b : ByteArray) :
    fs.write (p.join name) b = .ok (fs.set (p.join name).place (.file b)) := by
  have hdir := h.noDirectory
  rw [write, locate_join hlook hname h.short]
  simp only [bind, Except.bind]
  rfl

theorem write_join_of_bars {cause : FileCause} (h : fs.Bars (p.join name) cause)
    (b : ByteArray) : fs.write (p.join name) b = .error ⟨cause, p.join name⟩ := by
  cases h with
  | long hlong =>
    rw [write, locate_join_of_isLong hlook hname hlong]
    rfl
  | directory hshort hget =>
    rw [write, locate_join hlook hname hshort]
    simp only [bind, Except.bind, hget]

end Join

/-- A file is read if it is there at the end of the path. -/
theorem read_eq_ok_iff {b : ByteArray} : fs.read p = .ok b ↔ fs.look p = some (.file b) := by
  rw [read, look]
  cases hlocate : fs.locate p with
  | error e => simp [bind, Except.bind]
  | ok r =>
    simp only [bind, Except.bind]
    cases hget : fs.get? r with
    | none => simp
    | some e =>
      cases e with
      | directory => simp
      | file content => simp [pure, Except.pure]

/-- A file in a directory is read if its path is not too long and the
directory is there and the file too. -/
theorem read_join_iff (hname : Path.CanName name) {b : ByteArray} :
    fs.read (p.join name) = .ok b ↔ (p.join name).isLong = false
      ∧ fs.look p = some .directory ∧ fs.get? (p.join name).place = some (.file b) := by
  rw [read_eq_ok_iff, look_eq_some_iff, locate_join_iff]
  constructor
  · rintro ⟨⟨hlook, ⟨-, hshort⟩, -⟩, hget⟩
    exact ⟨hshort, hlook, hget⟩
  · rintro ⟨hshort, hlook, hget⟩
    exact ⟨⟨hlook, ⟨hname, hshort⟩, rfl⟩, hget⟩

end FileSystem

namespace Artifact

/-- The place of the class file. -/
def classPlace (out : Path) : Path := (classPath out).place

/-- The place of the file of the dispatch map. -/
def mapPlace (out : Path) : Path := (mapPath out).place

theorem canName_className : Path.CanName className := by decide

theorem canName_mapName : Path.CanName mapName := by decide

/-- The two files have two places. -/
theorem classPlace_ne_mapPlace (out : Path) : classPlace out ≠ mapPlace out := fun h =>
  absurd (Path.place_join_inj (by decide) (by decide) h) (by decide)

variable {a : Artifact} {out : Path} {fs : FileSystem} {r : Except FileFault Unit × FileSystem}

/-- **How writing ends**, and the files that it leaves. -/
inductive Writes (a : Artifact) (out : Path) (fs : FileSystem) :
    Except FileFault Unit × FileSystem → Prop
  /-- The directory cannot be made. -/
  | noDirectory {e : FileFault} {fs₁ : FileSystem} :
      fs.makeDirectories out = (.error e, fs₁) → Writes a out fs (.error e, fs₁)
  /-- The class file is barred. -/
  | noClass {cause : FileCause} {fs₁ : FileSystem} :
      fs.makeDirectories out = (.ok (), fs₁) → fs₁.Bars (classPath out) cause →
      Writes a out fs (.error ⟨cause, classPath out⟩, fs₁)
  /-- The class file is written, and the dispatch map is barred. -/
  | noMap {cause : FileCause} {fs₁ : FileSystem} :
      fs.makeDirectories out = (.ok (), fs₁) → fs₁.Admits (classPath out) →
      fs₁.Bars (mapPath out) cause →
      Writes a out fs (.error ⟨cause, mapPath out⟩,
        fs₁.set (classPlace out) (.file (content a.classText)))
  /-- Both files are written. -/
  | both {fs₁ : FileSystem} :
      fs.makeDirectories out = (.ok (), fs₁) → fs₁.Admits (classPath out) →
      fs₁.Admits (mapPath out) →
      Writes a out fs (.ok (), (fs₁.set (classPlace out) (.file (content a.classText))).set
        (mapPlace out) (.file (content a.mapText)))

/-- Putting the class file changes its place alone. -/
theorem get?_set_classPlace (h : fs.Admits (classPath out)) (e : FileEntry) (q : Path) :
    (fs.set (classPlace out) e).get? q = if q = classPlace out then some e else fs.get? q :=
  FileSystem.get?_set_of_ne_directory h.noDirectory e q

/-- And so does putting the dispatch map. -/
theorem get?_set_mapPlace (h : fs.Admits (mapPath out)) (e : FileEntry) (q : Path) :
    (fs.set (mapPlace out) e).get? q = if q = mapPlace out then some e else fs.get? q :=
  FileSystem.get?_set_of_ne_directory h.noDirectory e q

section Set

variable {fs₁ : FileSystem} (hclass : fs₁.Admits (classPath out)) (e : FileEntry)
include hclass

/-- What is in the place of the dispatch map is the same once the class
file is written. -/
theorem get?_mapPlace_set :
    (fs₁.set (classPlace out) e).get? (mapPlace out) = fs₁.get? (mapPlace out) := by
  rw [get?_set_classPlace hclass, if_neg (classPlace_ne_mapPlace out).symm]

theorem admits_mapPath_set (hmap : fs₁.Admits (mapPath out)) :
    (fs₁.set (classPlace out) e).Admits (mapPath out) :=
  ⟨hmap.short, (get?_mapPlace_set hclass e).trans_ne hmap.noDirectory⟩

theorem bars_mapPath_set {cause : FileCause} (hmap : fs₁.Bars (mapPath out) cause) :
    (fs₁.set (classPlace out) e).Bars (mapPath out) cause := by
  cases hmap with
  | long hlong => exact .long hlong
  | directory hshort hget => exact .directory hshort ((get?_mapPlace_set hclass e).trans hget)

end Set

/-- **Writing ends in one of these ways.** -/
theorem writes (a : Artifact) (out : Path) (fs : FileSystem) : Writes a out fs (a.write out fs) := by
  unfold write
  split
  · next e fs₁ hmake => exact .noDirectory hmake
  · next fs₁ hmake =>
    have hlook := FileSystem.look_of_makeDirectories hmake
    rcases fs₁.admits_or_bars (classPath out) with hclass | ⟨cause, hclass⟩
    · have hwrite : fs₁.write (classPath out) (content a.classText)
          = .ok (fs₁.set (classPlace out) (.file (content a.classText))) :=
        FileSystem.write_join hlook canName_className hclass _
      have hlook' : (fs₁.set (classPlace out) (.file (content a.classText))).look out
          = some .directory := FileSystem.look_set hlook hclass.noDirectory _
      rw [hwrite]
      simp only
      rcases fs₁.admits_or_bars (mapPath out) with hmap | ⟨cause, hmap⟩
      · have hwrite' := FileSystem.write_join hlook' canName_mapName
          (admits_mapPath_set hclass _ hmap) (content a.mapText)
        rw [← mapPath] at hwrite'
        rw [hwrite']
        exact .both hmake hclass hmap
      · have hfail := FileSystem.write_join_of_bars hlook' canName_mapName
          (bars_mapPath_set hclass _ hmap) (content a.mapText)
        rw [← mapPath] at hfail
        rw [hfail]
        exact .noMap hmake hclass hmap
    · have hfail : fs₁.write (classPath out) (content a.classText)
          = .error ⟨cause, classPath out⟩ :=
        FileSystem.write_join_of_bars hlook canName_className hclass _
      rw [hfail]
      exact .noClass hmake hclass

namespace Writes

/-- Writing ends in one way only. -/
theorem unique {r' : Except FileFault Unit × FileSystem} (h : Writes a out fs r)
    (h' : Writes a out fs r') : r = r' := by
  cases h <;> cases h' <;> grind [FileSystem.Bars.not_admits, FileSystem.Bars.unique]

/-- **Apart from the two files, writing only adds the way to their
directory.** -/
theorem get?_of_ne (h : Writes a out fs r) {q : Path} (hclass : q ≠ classPlace out)
    (hmap : q ≠ mapPlace out) :
    r.2.get? q = fs.get? q
      ∨ fs.get? q = none ∧ r.2.get? q = some .directory ∧ out.Passes q := by
  cases h with
  | noDirectory hmake => exact FileSystem.addsWay_makeDirectories hmake q
  | noClass hmake => exact FileSystem.addsWay_makeDirectories hmake q
  | noMap hmake hadmits =>
    rw [get?_set_classPlace hadmits, if_neg hclass]
    exact FileSystem.addsWay_makeDirectories hmake q
  | both hmake hadmits hadmits' =>
    rw [get?_set_mapPlace (admits_mapPath_set hadmits _ hadmits'), if_neg hmap,
      get?_set_classPlace hadmits, if_neg hclass]
    exact FileSystem.addsWay_makeDirectories hmake q

/-- What is in both places once both files are written. -/
theorem get?_both {fs' : FileSystem} (h : Writes a out fs (.ok (), fs')) :
    fs'.get? (classPlace out) = some (.file (content a.classText))
      ∧ fs'.get? (mapPlace out) = some (.file (content a.mapText)) := by
  cases h with
  | both hmake hclass hmap =>
    have hmap' := admits_mapPath_set hclass (.file (content a.classText)) hmap
    rw [get?_set_mapPlace hmap', get?_set_mapPlace hmap', if_neg (classPlace_ne_mapPlace out),
      if_pos rfl, get?_set_classPlace hclass, if_pos rfl]
    exact ⟨rfl, rfl⟩

theorem look_both {fs' : FileSystem} (h : Writes a out fs (.ok (), fs')) :
    fs'.look out = some .directory := by
  cases h with
  | both hmake hclass hmap =>
    exact FileSystem.look_set
      (FileSystem.look_set (FileSystem.look_of_makeDirectories hmake) hclass.noDirectory _)
      (admits_mapPath_set hclass _ hmap).noDirectory _

/-- Neither path is too long if both files are written. -/
theorem short_both {fs' : FileSystem} (h : Writes a out fs (.ok (), fs')) :
    (classPath out).isLong = false ∧ (mapPath out).isLong = false := by
  cases h with
  | both hmake hclass hmap => exact ⟨hclass.short, hmap.short⟩

/-- Writing fails for the null character just if the path holds it, and
then nothing is written. -/
theorem of_nullCharacter {e : FileFault} {fs' : FileSystem} (h : Writes a out fs (.error e, fs'))
    (hcause : e.cause = .nullCharacter) :
    out.holdsNull = true ∧ e = ⟨.nullCharacter, out⟩ ∧ fs' = fs := by
  cases h with
  | noDirectory hmake =>
    have hnull := FileSystem.holdsNull_of_makeDirectories hmake hcause
    obtain ⟨he, rfl⟩ := Prod.mk.inj (hmake.symm.trans (FileSystem.makeDirectories_of_holdsNull hnull))
    exact ⟨hnull, Except.error.inj he, rfl⟩
  | noClass _ hbars => exact absurd hcause hbars.ne_nullCharacter
  | noMap _ _ hbars => exact absurd hcause hbars.ne_nullCharacter

/-- **Files that are written are read as they were written.** -/
theorem read_both {fs' : FileSystem} (h : Writes a out fs (.ok (), fs')) :
    fs'.read (classPath out) = .ok (content a.classText)
      ∧ fs'.read (mapPath out) = .ok (content a.mapText) :=
  ⟨(FileSystem.read_join_iff canName_className).2 ⟨h.short_both.1, h.look_both, h.get?_both.1⟩,
    (FileSystem.read_join_iff canName_mapName).2 ⟨h.short_both.2, h.look_both, h.get?_both.2⟩⟩

end Writes

end Artifact

end HandlerGen
