import HandlerGen.Proofs.Writing
/-!
# Writing looks at no content

Whether a file can be written depends on where there is a directory, a file
or nothing, and never on what a file holds. So two states of the files that
differ in contents alone (`FileSystem.SameKinds`) are written into with the
same result, and with the same change: **at each place both then have the
same, or each has what it had before** (`Artifact.write_alike`,
`FileSystem.ChangedAlike`).
-/

namespace HandlerGen

/-- Nothing, a directory or a file in one place, whatever the file
holds. -/
inductive SameKind : Option FileEntry → Option FileEntry → Prop
  | nothing : SameKind none none
  | directory : SameKind (some .directory) (some .directory)
  | file (b b' : ByteArray) : SameKind (some (.file b)) (some (.file b'))

namespace SameKind

theorem refl (x : Option FileEntry) : SameKind x x := by
  cases x with
  | none => exact .nothing
  | some e =>
    cases e with
    | directory => exact .directory
    | file b => exact .file b b

theorem eq_directory {x x' : Option FileEntry} (h : SameKind x x') (hx : x ≠ some .directory) :
    x' ≠ some .directory := by
  cases h with
  | nothing => exact hx
  | directory => exact absurd rfl hx
  | file b b' => simp

end SameKind

namespace FileSystem

variable {start start' fs fs' : FileSystem} {p q : Path}

/-- Two states of the files that differ in what files hold alone. -/
def SameKinds (fs fs' : FileSystem) : Prop := ∀ q, SameKind (fs.get? q) (fs'.get? q)

namespace SameKinds

theorem follow_eq (h : SameKinds fs fs') (place : Path) (names : List Text) :
    fs'.follow place names = fs.follow place names := by
  induction names generalizing place with
  | nil => rfl
  | cons name names ih =>
    have hplace := h place
    rw [follow, follow]
    generalize fs.get? place = x, fs'.get? place = x' at hplace
    cases hplace with
    | nothing => rfl
    | directory => exact if_congr Iff.rfl rfl (ih _)
    | file b b' => rfl

/-- Paths lead to the same places. -/
theorem locate_eq (h : SameKinds fs fs') (p : Path) : fs'.locate p = fs.locate p := by
  rw [locate, locate, h.follow_eq]

theorem look (h : SameKinds fs fs') (p : Path) : SameKind (fs.look p) (fs'.look p) := by
  rw [FileSystem.look, FileSystem.look, h.locate_eq]
  cases fs.locate p with
  | error e => exact .nothing
  | ok place => exact h place

end SameKinds

/-- **Two states have changed alike**: at each place they have the same, or
each has what it had at the start. -/
def ChangedAlike (start start' fs fs' : FileSystem) : Prop :=
  ∀ q, fs'.get? q = fs.get? q ∨ fs.get? q = start.get? q ∧ fs'.get? q = start'.get? q

namespace ChangedAlike

theorem refl : ChangedAlike start start' start start' := fun _ => .inr ⟨rfl, rfl⟩

theorem sameKinds (h : ChangedAlike start start' fs fs') (hstart : SameKinds start start') :
    SameKinds fs fs' := by
  intro q
  rcases h q with hsame | ⟨hkept, hkept'⟩
  · rw [hsame]
    exact .refl _
  · rw [hkept, hkept']
    exact hstart q

/-- The same entry goes into both. -/
theorem set (h : ChangedAlike start start' fs fs') (hstart : SameKinds start start')
    (hq : fs.get? q ≠ some .directory) (e : FileEntry) :
    ChangedAlike start start' (fs.set q e) (fs'.set q e) := by
  have hq' : fs'.get? q ≠ some .directory := (h.sameKinds hstart q).eq_directory hq
  intro r
  rw [get?_set_of_ne_directory hq, get?_set_of_ne_directory hq']
  by_cases hr : r = q
  · rw [if_pos hr, if_pos hr]
    exact .inl rfl
  · rw [if_neg hr, if_neg hr]
    exact h r

end ChangedAlike

/-- An operation on two states fails with the same fault, or changes both
alike. -/
inductive EndsAlike (start start' : FileSystem) :
    Except FileFault FileSystem → Except FileFault FileSystem → Prop
  | error (e : FileFault) : EndsAlike start start' (.error e) (.error e)
  | ok {fs fs' : FileSystem} :
      ChangedAlike start start' fs fs' → EndsAlike start start' (.ok fs) (.ok fs')

section Operations

variable (hstart : SameKinds start start') (h : ChangedAlike start start' fs fs')
include hstart h

/-- Operations on a path that go on alike from its place end alike. -/
theorem bind_locate_alike {f f' : Path → Except FileFault FileSystem} (p : Path)
    (hf : ∀ place, EndsAlike start start' (f place) (f' place)) :
    EndsAlike start start' (fs.locate p >>= f) (fs'.locate p >>= f') := by
  rw [(h.sameKinds hstart).locate_eq]
  cases fs.locate p with
  | error e => exact .error e
  | ok place => exact hf place

theorem makeDirectory_alike (p : Path) :
    EndsAlike start start' (fs.makeDirectory p) (fs'.makeDirectory p) := by
  unfold makeDirectory
  refine bind_locate_alike hstart h p fun place => ?_
  have hplace := h.sameKinds hstart place
  have hset := h.set hstart (q := place) (e := .directory)
  generalize fs.get? place = x, fs'.get? place = x' at hplace hset
  cases hplace with
  | nothing => exact .ok (hset (by simp))
  | directory => exact .error _
  | file b b' => exact .error _

/-- What a file held that is written over does not matter either. -/
theorem write_alike (p : Path) (b : ByteArray) :
    EndsAlike start start' (fs.write p b) (fs'.write p b) := by
  unfold write
  refine bind_locate_alike hstart h p fun place => ?_
  have hplace := h.sameKinds hstart place
  have hset := h.set hstart (q := place) (e := .file b)
  generalize fs.get? place = x, fs'.get? place = x' at hplace hset
  cases hplace with
  | nothing => exact .ok (hset (by simp))
  | directory => exact .error _
  | file c c' => exact .ok (hset (by simp))

theorem ensureDirectory_alike (p : Path) :
    EndsAlike start start' (fs.ensureDirectory p) (fs'.ensureDirectory p) := by
  have hmake := makeDirectory_alike hstart h p
  have hlook := (h.sameKinds hstart).look p
  rw [ensureDirectory, ensureDirectory]
  generalize fs.makeDirectory p = r, fs'.makeDirectory p = r' at hmake
  generalize fs.look p = x, fs'.look p = x' at hlook
  cases hmake with
  | ok hchanged => exact .ok hchanged
  | error e =>
    cases hlook with
    | nothing => exact .error e
    | directory => exact .ok h
    | file b b' => exact .error e

end Operations

/-- The way to a directory is made alike, also where that fails halfway. -/
theorem makeWay_alike (hstart : SameKinds start start') (h : ChangedAlike start start' fs fs')
    (rooted : Bool) (names : List Text) :
    (fs'.makeWay rooted names).1 = (fs.makeWay rooted names).1
      ∧ ChangedAlike start start' (fs.makeWay rooted names).2 (fs'.makeWay rooted names).2 := by
  induction names with
  | nil => exact ⟨rfl, h⟩
  | cons name names ih =>
    have hensure := ensureDirectory_alike hstart h ⟨rooted, (name :: names).reverse⟩
    rw [makeWay, makeWay]
    generalize fs.ensureDirectory ⟨rooted, (name :: names).reverse⟩ = r,
      fs'.ensureDirectory ⟨rooted, (name :: names).reverse⟩ = r' at hensure
    cases hensure with
    | ok hchanged => exact ⟨rfl, hchanged⟩
    | error e =>
      simp only
      by_cases he : e.cause = .notFound
      · rw [if_pos he, if_pos he]
        generalize fs.makeWay rooted names = w, fs'.makeWay rooted names = w' at ih
        obtain ⟨done, gs⟩ := w
        obtain ⟨done', gs'⟩ := w'
        obtain ⟨rfl, hrest⟩ := ih
        cases done' with
        | error e => exact ⟨rfl, hrest⟩
        | ok u =>
          have hensure := ensureDirectory_alike hstart hrest ⟨rooted, (name :: names).reverse⟩
          simp only
          generalize gs.ensureDirectory ⟨rooted, (name :: names).reverse⟩ = r,
            gs'.ensureDirectory ⟨rooted, (name :: names).reverse⟩ = r' at hensure
          cases hensure with
          | ok hchanged => exact ⟨rfl, hchanged⟩
          | error e => exact ⟨rfl, hrest⟩
      · rw [if_neg he, if_neg he]
        exact ⟨rfl, h⟩

end FileSystem

/-- **Both files are written alike into states that differ in contents
alone**: with the same result, and with the same change. -/
theorem Artifact.write_alike {fs fs' : FileSystem} (h : fs.SameKinds fs') (a : Artifact)
    (out : Path) :
    (a.write out fs').1 = (a.write out fs).1
      ∧ FileSystem.ChangedAlike fs fs' (a.write out fs).2 (a.write out fs').2 := by
  have hway := FileSystem.makeWay_alike h .refl out.rooted out.names.reverse
  rw [write, write, FileSystem.makeDirectories, FileSystem.makeDirectories]
  generalize fs.makeWay out.rooted out.names.reverse = w,
    fs'.makeWay out.rooted out.names.reverse = w' at hway
  obtain ⟨done, gs⟩ := w
  obtain ⟨done', gs'⟩ := w'
  obtain ⟨rfl, hmade⟩ := hway
  cases done' with
  | error e => exact ⟨rfl, hmade⟩
  | ok u =>
    have hclass := FileSystem.write_alike h hmade (classPath out) (content a.classText)
    simp only
    generalize gs.write (classPath out) (content a.classText) = r,
      gs'.write (classPath out) (content a.classText) = r' at hclass
    cases hclass with
    | error e => exact ⟨rfl, hmade⟩
    | @ok cs cs' hwritten =>
      have hmap := FileSystem.write_alike h hwritten (mapPath out) (content a.mapText)
      simp only
      generalize cs.write (mapPath out) (content a.mapText) = r,
        cs'.write (mapPath out) (content a.mapText) = r' at hmap
      cases hmap with
      | error e => exact ⟨rfl, hwritten⟩
      | ok hboth => exact ⟨rfl, hboth⟩

/-- So writing ends in one way for both. -/
theorem Artifact.Writes.alike {fs fs' gs : FileSystem} {a : Artifact} {out : Path}
    {done : Except FileFault Unit} (h : a.Writes out fs (done, gs)) (hkinds : fs.SameKinds fs') :
    ∃ gs', a.Writes out fs' (done, gs') ∧ FileSystem.ChangedAlike fs fs' gs gs' := by
  obtain ⟨hdone, hchanged⟩ := write_alike hkinds a out
  have hwrites := a.writes out fs'
  rw [(a.writes out fs).unique h] at hdone hchanged
  generalize a.write out fs' = w at hdone hchanged hwrites
  obtain ⟨done', gs'⟩ := w
  obtain rfl : done' = done := hdone
  exact ⟨gs', hwrites, hchanged⟩

end HandlerGen
