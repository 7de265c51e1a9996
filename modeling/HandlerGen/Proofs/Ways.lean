import HandlerGen.Proofs.Places
/-!
# Making the way to a directory

Making a directory with those on the way to it leaves all that there is
as it is and adds directories, at places that the path passes and at no
other (`FileSystem.AddsWay`). **So it does also where it fails halfway**
(`FileSystem.addsWay_makeDirectories`). Where it succeeds the path leads to
a directory (`FileSystem.look_of_makeDirectories`), and it does succeed
where the path can be followed, unless a file stands on the way
(`FileSystem.exists_makeDirectories`).
-/

namespace HandlerGen

namespace FileSystem

variable {fs fs' fs'' : FileSystem} {p q : Path} {name : Text}

/-- What there was is as it was, and what is new is a directory that a
path passes. -/
def AddsWay (fs : FileSystem) (p : Path) (fs' : FileSystem) : Prop :=
  ∀ q, fs'.get? q = fs.get? q ∨ fs.get? q = none ∧ fs'.get? q = some .directory ∧ p.Passes q

namespace AddsWay

theorem refl : fs.AddsWay p fs := fun _ => .inl rfl

theorem trans (h : fs.AddsWay p fs') (h' : fs'.AddsWay p fs'') : fs.AddsWay p fs'' := by
  intro q
  rcases h' q with hsame' | ⟨hnone', hdir', hpass⟩
  · rw [hsame']
    exact h q
  · rcases h q with hsame | ⟨-, hdir, -⟩
    · exact .inr ⟨hsame ▸ hnone', hdir', hpass⟩
    · exact absurd (hnone'.symm.trans hdir) (by simp)

theorem join (h : fs.AddsWay p fs') : fs.AddsWay (p.join name) fs' := fun q =>
  (h q).imp_right fun ⟨hnone, hdir, hpass⟩ => ⟨hnone, hdir, Path.passes_join_iff.2 (.inl hpass)⟩

theorem get?_directory (h : fs.AddsWay p fs') (hq : fs.get? q = some .directory) :
    fs'.get? q = some .directory := by
  rcases h q with hsame | ⟨-, hdir, -⟩
  · rw [hsame, hq]
  · exact hdir

/-- A directory was there or is on the way. -/
theorem passes_of_directory (h : fs.AddsWay p fs') (hq : fs'.get? q = some .directory) :
    fs.get? q = some .directory ∨ p.Passes q :=
  (h q).imp (fun hsame => hsame.symm.trans hq) fun ⟨_, _, hpass⟩ => hpass

/-- Files are neither made nor changed nor lost. -/
theorem get?_file_iff (h : fs.AddsWay p fs') {b : ByteArray} :
    fs'.get? q = some (.file b) ↔ fs.get? q = some (.file b) := by
  rcases h q with hsame | ⟨hnone, hdir, -⟩
  · rw [hsame]
  · rw [hnone, hdir]
    simp

end AddsWay

/-- A new directory at the end of a way. -/
theorem addsWay_set (h : fs.get? p.place = none) : fs.AddsWay p (fs.set p.place .directory) := by
  intro q
  rw [get?_set_of_ne_directory (by simp [h])]
  by_cases hq : q = p.place
  · subst hq
    exact .inr ⟨h, if_pos rfl, Path.passes_place p⟩
  · exact .inl (if_neg hq)

/-! ## One directory -/

theorem makeDirectory_eq_ok (h : fs.makeDirectory p = .ok fs') :
    fs.locate p = .ok p.place ∧ fs.get? p.place = none ∧ fs' = fs.set p.place .directory := by
  unfold makeDirectory at h
  cases hlocate : fs.locate p with
  | error e =>
    rw [hlocate] at h
    exact absurd h (by simp [bind, Except.bind])
  | ok q =>
    obtain rfl := place_of_locate hlocate
    cases hget : fs.get? p.place with
    | some e =>
      rw [hlocate] at h
      simp [bind, Except.bind, hget] at h
    | none =>
      rw [hlocate] at h
      simp only [bind, Except.bind, hget, pure, Except.pure] at h
      exact ⟨rfl, rfl, (Except.ok.inj h).symm⟩

/-- **Once a directory is ensured it is there**, and nothing else is
new. -/
theorem ensureDirectory_eq_ok (h : fs.ensureDirectory p = .ok fs') :
    fs.AddsWay p fs' ∧ fs'.look p = some .directory := by
  unfold ensureDirectory at h
  split at h
  · next fs₁ _ hmake =>
    obtain rfl := Except.ok.inj h
    obtain ⟨hlocate, hnone, rfl⟩ := makeDirectory_eq_ok hmake
    have hway := addsWay_set hnone
    refine ⟨hway, look_eq_some_iff.2 ⟨locate_mono (fun _ => hway.get?_directory) hlocate, ?_⟩⟩
    rw [get?_set_of_ne_directory (by simp [hnone]), if_pos rfl]
  · next hlook =>
    obtain rfl := Except.ok.inj h
    exact ⟨.refl, hlook⟩
  · exact absurd h (by simp)

/-! ## The way to a directory -/

/-- **Making a way only adds directories on it**, and leads to a directory
if it succeeds. -/
theorem makeWay_spec {rooted : Bool} {names : List Text} {r : Except FileFault Unit}
    (h : fs.makeWay rooted names = (r, fs')) :
    fs.AddsWay ⟨rooted, names.reverse⟩ fs'
      ∧ (r = .ok () → fs'.look ⟨rooted, names.reverse⟩ = some .directory) := by
  induction names generalizing r fs' with
  | nil =>
    obtain ⟨rfl, rfl⟩ := Prod.mk.inj h
    exact ⟨.refl, fun _ => look_start rooted⟩
  | cons name names ih =>
    have hjoin : (⟨rooted, (name :: names).reverse⟩ : Path)
        = Path.join ⟨rooted, names.reverse⟩ name := by
      rw [Path.join, List.reverse_cons]
    rw [makeWay] at h
    simp only [hjoin] at h ⊢
    split at h
    · next fs₁ hensure =>
      obtain ⟨rfl, rfl⟩ := Prod.mk.inj h
      exact ⟨(ensureDirectory_eq_ok hensure).1, fun _ => (ensureDirectory_eq_ok hensure).2⟩
    · split at h
      · -- the way before it is made first, and stays when the last step fails
        split at h
        · next e fs₁ hrest =>
          obtain ⟨rfl, rfl⟩ := Prod.mk.inj h
          exact ⟨(ih hrest).1.join, fun hr => absurd hr (by simp)⟩
        · next fs₁ hrest =>
          have hway : fs.AddsWay (Path.join ⟨rooted, names.reverse⟩ name) fs₁ := (ih hrest).1.join
          split at h
          · next fs₂ hensure =>
            obtain ⟨rfl, rfl⟩ := Prod.mk.inj h
            exact ⟨hway.trans (ensureDirectory_eq_ok hensure).1,
              fun _ => (ensureDirectory_eq_ok hensure).2⟩
          · obtain ⟨rfl, rfl⟩ := Prod.mk.inj h
            exact ⟨hway, fun hr => absurd hr (by simp)⟩
      · obtain ⟨rfl, rfl⟩ := Prod.mk.inj h
        exact ⟨.refl, fun hr => absurd hr (by simp)⟩

theorem addsWay_makeDirectories {r : Except FileFault Unit} (h : fs.makeDirectories p = (r, fs')) :
    fs.AddsWay p fs' := by
  have hspec := makeWay_spec h
  rw [List.reverse_reverse] at hspec
  exact hspec.1

theorem look_of_makeDirectories (h : fs.makeDirectories p = (.ok (), fs')) :
    fs'.look p = some .directory := by
  have hspec := makeWay_spec h
  rw [List.reverse_reverse] at hspec
  exact hspec.2 rfl

/-- Once a way is made there are directories at all places that it passes. -/
theorem get?_of_passes (h : fs.makeDirectories p = (.ok (), fs')) (hpass : p.Passes q) :
    fs'.get? q = some .directory :=
  (look_eq_directory_iff.1 (look_of_makeDirectories h)).2 q hpass

/-! ## Ways without files -/

/-- No file stands where a path passes. -/
def FreeOfFiles (fs : FileSystem) (p : Path) : Prop :=
  ∀ q b, p.Passes q → fs.get? q ≠ some (.file b)

theorem FreeOfFiles.of_join (h : fs.FreeOfFiles (p.join name)) : fs.FreeOfFiles p :=
  fun q b hq => h q b (Path.passes_join_iff.2 (.inl hq))

theorem FreeOfFiles.addsWay (h : fs.FreeOfFiles p) (hway : fs.AddsWay q fs') :
    fs'.FreeOfFiles p :=
  fun r b hr hfile => h r b hr (hway.get?_file_iff.1 hfile)

/-- What is not found without a file on the way is simply not there. -/
theorem follow_eq_error {place : Path} {names : List Text} {c : FileCause}
    (hnames : ∀ name ∈ names, Path.CanName name)
    (hfree : ∀ ms b, ms <+: names → fs.get? (place.enterAll ms) ≠ some (.file b))
    (h : fs.follow place names = .error c) : c = .notFound := by
  fun_induction follow fs place names with
  | case1 => exact absurd h (by simp)
  | case2 => exact (Except.error.inj h).symm
  | case3 place name names b hplace => exact absurd hplace (hfree [] b List.nil_prefix)
  | case4 place name names hplace hlong =>
    exact absurd hlong (by simp [(hnames name List.mem_cons_self).2])
  | case5 place name names hplace _ ih =>
    exact ih (fun m hm => hnames m (List.mem_cons_of_mem name hm))
      (fun ms b hms => hfree (name :: ms) b (List.cons_prefix_cons.2 ⟨rfl, hms⟩)) h

theorem cause_of_locate {e : FileFault} (hlead : p.CanLead) (hfree : fs.FreeOfFiles p)
    (h : fs.locate p = .error e) : e.cause = .notFound := by
  obtain ⟨hnames, hlong⟩ := hlead
  have hnull : p.holdsNull = false :=
    Path.holdsNull_eq_false_iff.2 fun name hname => (hnames name hname).1
  rw [locate, hnull, hlong, if_neg Bool.false_ne_true, if_neg Bool.false_ne_true] at h
  cases hfollow : fs.follow { p with names := [] } p.names with
  | ok q => simp [hfollow, Except.mapError] at h
  | error c =>
    rw [hfollow] at h
    obtain rfl := Except.error.inj h
    exact follow_eq_error hnames (fun ms b hms => hfree _ b ⟨ms, hms, rfl⟩) hfollow

theorem makeDirectory_of_none (hlocate : fs.locate p = .ok p.place)
    (hget : fs.get? p.place = none) :
    fs.makeDirectory p = .ok (fs.set p.place .directory) := by
  simp [makeDirectory, hlocate, hget, bind, Except.bind, pure, Except.pure]

/-- Where no file is in the way, a directory can be made in one that is
there. -/
theorem exists_ensureDirectory (hlocate : fs.locate p = .ok p.place) (hfree : fs.FreeOfFiles p) :
    ∃ fs', fs.ensureDirectory p = .ok fs' := by
  cases hget : fs.get? p.place with
  | none =>
    rw [ensureDirectory, makeDirectory_of_none hlocate hget]
    exact ⟨_, rfl⟩
  | some e =>
    cases e with
    | file b => exact absurd hget (hfree _ b (Path.passes_place p))
    | directory =>
      have hlook : fs.look p = some .directory := look_eq_some_iff.2 ⟨hlocate, hget⟩
      rw [ensureDirectory, hlook]
      cases fs.makeDirectory p with
      | ok fs' => exact ⟨fs', rfl⟩
      | error e => exact ⟨fs, rfl⟩

/-- A directory that cannot be made is in one that is not there. -/
theorem cause_of_ensureDirectory {e : FileFault} (hlead : p.CanLead) (hfree : fs.FreeOfFiles p)
    (h : fs.ensureDirectory p = .error e) : e.cause = .notFound := by
  cases hlocate : fs.locate p with
  | ok q =>
    obtain rfl := place_of_locate hlocate
    obtain ⟨fs', hensure⟩ := exists_ensureDirectory hlocate hfree
    exact absurd (h.symm.trans hensure) (by simp)
  | error c =>
    have hmake : fs.makeDirectory p = .error c := by
      simp [makeDirectory, hlocate, bind, Except.bind]
    have hlook : fs.look p = none := by rw [look, hlocate]
    rw [ensureDirectory, hmake, hlook] at h
    obtain rfl := Except.error.inj h
    exact cause_of_locate hlead hfree hlocate

/-- **The way to a directory can be made unless a file stands on it**, if
its path can be followed. -/
theorem exists_makeWay {rooted : Bool} {names : List Text}
    (hlead : Path.CanLead ⟨rooted, names.reverse⟩)
    (hfree : fs.FreeOfFiles ⟨rooted, names.reverse⟩) :
    ∃ fs', fs.makeWay rooted names = (.ok (), fs') := by
  induction names with
  | nil => exact ⟨fs, rfl⟩
  | cons name names ih =>
    have hjoin : (⟨rooted, (name :: names).reverse⟩ : Path)
        = Path.join ⟨rooted, names.reverse⟩ name := by
      rw [Path.join, List.reverse_cons]
    rw [hjoin] at hlead hfree
    obtain ⟨hlead', hhold⟩ := Path.canLead_join_iff.1 hlead
    rw [makeWay]
    simp only [hjoin]
    split
    · exact ⟨_, rfl⟩
    · next e hensure =>
      obtain ⟨fs₁, hrest⟩ := ih hlead' hfree.of_join
      obtain ⟨hway, hlook⟩ := makeWay_spec hrest
      obtain ⟨fs₂, hensure₂⟩ := exists_ensureDirectory
        (locate_join_iff.2 ⟨hlook rfl, hhold, rfl⟩) (hfree.addsWay hway)
      rw [if_pos (cause_of_ensureDirectory hlead hfree hensure), hrest]
      simp only [hensure₂]
      exact ⟨fs₂, rfl⟩

theorem exists_makeDirectories (hlead : p.CanLead) (hfree : fs.FreeOfFiles p) :
    ∃ fs', fs.makeDirectories p = (.ok (), fs') :=
  exists_makeWay (by rwa [List.reverse_reverse]) (by rwa [List.reverse_reverse])

/-! ## The null character -/

/-- **No directory is made where the path holds the null character**, and
none on the way to it. -/
theorem makeDirectories_of_holdsNull (h : p.holdsNull = true) :
    fs.makeDirectories p = (.error ⟨.nullCharacter, p⟩, fs) := by
  have hmake : fs.makeDirectory p = .error ⟨.nullCharacter, p⟩ := by
    rw [makeDirectory, locate_of_holdsNull h]
    rfl
  have hlook : fs.look p = none := by rw [look, locate_of_holdsNull h]
  have hensure : fs.ensureDirectory p = .error ⟨.nullCharacter, p⟩ := by
    rw [ensureDirectory, hmake, hlook]
  obtain ⟨rooted, names⟩ := p
  rw [makeDirectories]
  obtain ⟨ms, rfl⟩ : ∃ ms : List Text, names = ms.reverse := ⟨names.reverse, by simp⟩
  cases ms with
  | nil => exact absurd h (by simp [Path.holdsNull])
  | cons m ms =>
    rw [List.reverse_reverse, makeWay, hensure]
    rfl

theorem holdsNull_of_ensureDirectory {e : FileFault} (h : fs.ensureDirectory p = .error e)
    (hcause : e.cause = .nullCharacter) : p.holdsNull = true := by
  have hmake : fs.makeDirectory p = .error e := by
    cases hmake : fs.makeDirectory p with
    | ok fs' => simp [ensureDirectory, hmake] at h
    | error c =>
      cases hlook : fs.look p with
      | none => simpa [ensureDirectory, hmake, hlook] using h
      | some entry =>
        cases entry with
        | directory => simp [ensureDirectory, hmake, hlook] at h
        | file b => simpa [ensureDirectory, hmake, hlook] using h
  rw [makeDirectory] at hmake
  cases hlocate : fs.locate p with
  | error c =>
    rw [hlocate] at hmake
    obtain rfl := Except.error.inj hmake
    exact (cause_of_locate_iff hlocate).1 hcause
  | ok q =>
    rw [hlocate] at hmake
    simp only [bind, Except.bind] at hmake
    split at hmake
    · obtain rfl := Except.error.inj hmake
      exact absurd hcause (by simp)
    · exact absurd hmake (by simp [pure, Except.pure])

theorem holdsNull_of_makeWay {rooted : Bool} {names : List Text} {e : FileFault}
    (h : fs.makeWay rooted names = (.error e, fs')) (hcause : e.cause = .nullCharacter) :
    Path.holdsNull ⟨rooted, names.reverse⟩ = true := by
  induction names generalizing e fs' with
  | nil => exact absurd (Prod.mk.inj h).1 (by simp)
  | cons name names ih =>
    have hjoin : Path.holdsNull ⟨rooted, names.reverse⟩ = true →
        Path.holdsNull ⟨rooted, (name :: names).reverse⟩ = true := by
      intro hnull
      rw [Path.holdsNull, List.reverse_cons, List.any_append]
      exact Bool.or_eq_true_iff.2 (.inl hnull)
    rw [makeWay] at h
    split at h
    · exact absurd (Prod.mk.inj h).1 (by simp)
    · next c hensure =>
      split at h
      · split at h
        · next hrest =>
          obtain ⟨he, rfl⟩ := Prod.mk.inj h
          exact hjoin (ih (Except.error.inj he ▸ hrest) hcause)
        · split at h
          · exact absurd (Prod.mk.inj h).1 (by simp)
          · next hensure' =>
            obtain ⟨he, rfl⟩ := Prod.mk.inj h
            exact holdsNull_of_ensureDirectory (Except.error.inj he ▸ hensure') hcause
      · obtain ⟨he, rfl⟩ := Prod.mk.inj h
        exact holdsNull_of_ensureDirectory (Except.error.inj he ▸ hensure) hcause

/-- Making directories fails for that cause alone where the path holds
it. -/
theorem holdsNull_of_makeDirectories {e : FileFault} (h : fs.makeDirectories p = (.error e, fs'))
    (hcause : e.cause = .nullCharacter) : p.holdsNull = true := by
  have hway := holdsNull_of_makeWay h hcause
  rwa [List.reverse_reverse] at hway

end FileSystem

end HandlerGen
