import HandlerGen.Files.FileSystem
import Mathlib.Data.List.Induction
import Mathlib.Data.List.Infix
/-!
# Where paths lead

Names are entered one after the other, so a path can lead to one place
only, whatever there is (`Path.place`), and to get there it passes the
places of its beginnings (`Path.Passes`). The path and what there is
decide whether an operation gets there: it does where files can have its
names, it is not too long, and each place before the last is a directory
(`FileSystem.locate_join_iff`), and **there is a directory at the end of a
path exactly if it can be followed and there is one at every place that it
passes** (`FileSystem.look_eq_directory_iff`). So more directories never
bar a way (`FileSystem.locate_mono`).
-/

namespace HandlerGen

namespace Path

/-- The place that names lead to from a place. -/
def enterAll (place : Path) (names : List Text) : Path := names.foldl enter place

/-- The place that a path leads to. -/
def place (p : Path) : Path := enterAll { p with names := [] } p.names

/-- A path passes the places of its beginnings, from the start of its way
to its own place. -/
def Passes (p q : Path) : Prop := ∃ names, names <+: p.names ∧ place { p with names } = q

/-- A name that a file can have. -/
def CanName (name : Text) : Prop := '\x00' ∉ name ∧ isLongName name = false

instance (name : Text) : Decidable (CanName name) :=
  inferInstanceAs (Decidable ('\x00' ∉ name ∧ isLongName name = false))

/-- A path that can be followed, if all that it leads through is there. -/
def CanLead (p : Path) : Prop := (∀ name ∈ p.names, CanName name) ∧ p.isLong = false

instance (p : Path) : Decidable p.CanLead :=
  inferInstanceAs (Decidable ((∀ name ∈ p.names, CanName name) ∧ p.isLong = false))

/-- A path that can be followed to a name, if it can be followed itself. -/
def CanHold (p : Path) (name : Text) : Prop := CanName name ∧ (p.join name).isLong = false

instance (p q : Path) : Decidable (p.Passes q) :=
  decidable_of_iff (∃ names ∈ p.names.inits, place { p with names } = q)
    (exists_congr fun _ => and_congr_left' (List.mem_inits _ _))

theorem place_join (p : Path) (name : Text) : (p.join name).place = p.place.enter name :=
  List.foldl_append

theorem passes_place (p : Path) : p.Passes p.place := ⟨p.names, List.prefix_rfl, rfl⟩

/-- A path with one more name passes one more place. -/
theorem passes_join_iff {p q : Path} {name : Text} :
    (p.join name).Passes q ↔ p.Passes q ∨ q = (p.join name).place := by
  constructor
  · rintro ⟨names, hnames, rfl⟩
    rcases List.prefix_concat_iff.1 hnames with rfl | hnames
    · exact .inr rfl
    · exact .inl ⟨names, hnames, rfl⟩
  · rintro (⟨names, hnames, rfl⟩ | rfl)
    · exact ⟨names, hnames.trans (List.prefix_append _ _), rfl⟩
    · exact passes_place _

theorem passes_start_iff {rooted : Bool} {q : Path} :
    Passes ⟨rooted, []⟩ q ↔ q = ⟨rooted, []⟩ := by
  constructor
  · rintro ⟨names, hnames, rfl⟩
    rw [List.prefix_nil.1 hnames]
    rfl
  · rintro rfl
    exact passes_place _

theorem byteCount_append (s t : Text) : byteCount (s ++ t) = byteCount s + byteCount t := by
  induction s with
  | nil => exact (Nat.zero_add _).symm
  | cons c s ih => exact (congrArg (c.utf8Size + ·) ih).trans (Nat.add_assoc ..).symm

/-- More names take more bytes. -/
theorem byteCount_intercalate_le (s name : Text) (names : List Text) :
    byteCount (s.intercalate names) ≤ byteCount (s.intercalate (names ++ [name])) := by
  induction names with
  | nil => exact Nat.zero_le _
  | cons m names ih =>
    cases names with
    | nil =>
      rw [List.singleton_append, List.intercalate_cons_cons, List.intercalate_singleton,
        List.append_assoc, byteCount_append]
      exact Nat.le_add_right _ _
    | cons n names =>
      rw [List.cons_append, List.cons_append, List.intercalate_cons_cons,
        List.intercalate_cons_cons, byteCount_append (m ++ s), byteCount_append (m ++ s)]
      exact Nat.add_le_add_left ih _

theorem isLong_start (rooted : Bool) : isLong ⟨rooted, []⟩ = false := by
  cases rooted with
  | false => decide
  | true => decide

/-- A beginning of a path is not longer than the path. -/
theorem isLong_of_join {p : Path} {name : Text} (h : (p.join name).isLong = false) :
    p.isLong = false := by
  obtain ⟨rooted, names⟩ := p
  by_cases hnames : names = []
  · rw [hnames]
    exact isLong_start rooted
  · have hle := byteCount_intercalate_le ['/'] name names
    rw [isLong, decide_eq_false_iff_not, Nat.not_lt] at h ⊢
    refine Nat.le_trans ?_ h
    cases rooted with
    | true => exact Nat.add_le_add_left hle _
    | false =>
      rw [text, text, if_neg Bool.false_ne_true, if_neg (by simpa using hnames)]
      simpa [join] using hle

theorem canLead_join_iff {p : Path} {name : Text} :
    (p.join name).CanLead ↔ p.CanLead ∧ p.CanHold name := by
  have hnames : (∀ n ∈ (p.join name).names, CanName n) ↔
      (∀ n ∈ p.names, CanName n) ∧ CanName name := by
    rw [join, List.forall_mem_append, List.forall_mem_singleton]
  rw [CanLead, CanLead, CanHold, hnames]
  constructor
  · rintro ⟨⟨hp, hname⟩, hlong⟩
    exact ⟨⟨hp, isLong_of_join hlong⟩, hname, hlong⟩
  · rintro ⟨⟨hp, -⟩, hname, hlong⟩
    exact ⟨⟨hp, hname⟩, hlong⟩

theorem holdsNull_eq_false_iff {p : Path} :
    p.holdsNull = false ↔ ∀ name ∈ p.names, '\x00' ∉ name := by
  rw [holdsNull, List.any_eq_false]
  exact forall₂_congr fun name _ => by rw [List.contains_iff_mem]

/-- Names that do not lead back stay apart in one directory. -/
theorem place_join_inj {p : Path} {m n : Text} (hm : m ≠ ['.', '.']) (hn : n ≠ ['.', '.'])
    (h : (p.join m).place = (p.join n).place) : m = n := by
  rw [place_join, place_join, enter, enter, if_neg hm, if_neg hn] at h
  exact (List.append_singleton_inj.1 (congrArg Path.names h)).2

/-- **A path is led through by its beginnings**: what holds of the start
and goes on from a path to each that has one more name holds of all. -/
theorem joinInduction {motive : Path → Prop} (start : ∀ rooted, motive ⟨rooted, []⟩)
    (join : ∀ p name, motive p → motive (p.join name)) (p : Path) : motive p := by
  obtain ⟨rooted, names⟩ := p
  induction names using List.reverseRecOn with
  | nil => exact start rooted
  | append_singleton names name ih => exact join ⟨rooted, names⟩ name ih

end Path

namespace FileSystem

variable {fs fs' : FileSystem} {p q : Path} {name : Text}

/-- What is there and no directory, or not there, is not the start of a
way. -/
theorem names_ne_nil (h : fs.get? q ≠ some .directory) : q.names ≠ [] := by
  intro hnil
  rw [get?, hnil] at h
  exact h rfl

/-- A write to what is no directory sets that place and no other. -/
theorem get?_set_of_ne_directory (h : fs.get? q ≠ some .directory) (e : FileEntry) (r : Path) :
    (fs.set q e).get? r = if r = q then some e else fs.get? r :=
  get?_set (names_ne_nil h) e r

/-! ## Following names -/

/-- One more name leads on from a directory, and only from there. -/
theorem follow_concat_iff {place : Path} {names : List Text} :
    fs.follow place (names ++ [name]) = .ok q ↔
      ∃ r, fs.follow place names = .ok r ∧ fs.get? r = some .directory
        ∧ Path.isLongName name = false ∧ q = r.enter name := by
  induction names generalizing place with
  | nil =>
    rw [List.nil_append, follow, follow]
    cases hplace : fs.get? place with
    | none => simp [hplace]
    | some e =>
      cases e with
      | directory =>
        by_cases hn : Path.isLongName name = true
        · simp [hn]
        · simp [follow, hplace, hn, eq_comm]
      | file b => simp [hplace]
  | cons n names ih =>
    rw [List.cons_append, follow, follow]
    cases hplace : fs.get? place with
    | none => simp
    | some e =>
      cases e with
      | directory =>
        by_cases hn : Path.isLongName n = true
        · simp [hn]
        · simp only [if_neg hn]
          exact ih
      | file b => simp

theorem follow_eq_enterAll {place : Path} {names : List Text} (h : fs.follow place names = .ok q) :
    q = place.enterAll names := by
  fun_induction follow fs place names with
  | case1 place => exact (Except.ok.inj h).symm
  | case2 => exact absurd h (by simp)
  | case3 => exact absurd h (by simp)
  | case4 => exact absurd h (by simp)
  | case5 place name names hplace _ ih => exact ih h

/-- Names lead to the same place where there are more directories. -/
theorem follow_mono (hmore : ∀ r, fs.get? r = some .directory → fs'.get? r = some .directory)
    {place : Path} {names : List Text} (h : fs.follow place names = .ok q) :
    fs'.follow place names = .ok q := by
  fun_induction follow fs place names with
  | case1 place => exact h
  | case2 => exact absurd h (by simp)
  | case3 => exact absurd h (by simp)
  | case4 => exact absurd h (by simp)
  | case5 place name names hplace hshort ih =>
    rw [follow, hmore place hplace]
    simp only [if_neg hshort]
    exact ih h

/-! ## Paths -/

theorem locate_eq_ok_iff :
    fs.locate p = .ok q ↔
      p.holdsNull = false ∧ p.isLong = false
        ∧ fs.follow { p with names := [] } p.names = .ok q := by
  unfold locate
  by_cases hnull : p.holdsNull = true
  · simp [hnull]
  · by_cases hlong : p.isLong = true
    · simp [hnull, hlong]
    · rw [if_neg hnull, if_neg hlong, Bool.not_eq_true] at *
      cases fs.follow { p with names := [] } p.names with
      | error e => simp [Except.mapError]
      | ok r => simp [Except.mapError, hnull, hlong]

/-- A path that holds the null character is not followed. -/
theorem locate_of_holdsNull (h : p.holdsNull = true) : fs.locate p = .error ⟨.nullCharacter, p⟩ :=
  if_pos h

/-- Following names has other faults. -/
theorem follow_ne_nullCharacter {place : Path} {names : List Text} :
    fs.follow place names ≠ .error .nullCharacter := by
  fun_induction follow fs place names with
  | case1 => simp
  | case2 => simp
  | case3 => simp
  | case4 => simp
  | case5 _ _ _ _ _ ih => exact ih

/-- **Only a path that holds the null character leads nowhere for that
cause.** -/
theorem cause_of_locate_iff {e : FileFault} (h : fs.locate p = .error e) :
    e.cause = .nullCharacter ↔ p.holdsNull = true := by
  by_cases hnull : p.holdsNull = true
  · rw [locate_of_holdsNull hnull] at h
    obtain rfl := Except.error.inj h
    exact iff_of_true rfl hnull
  · refine iff_of_false (fun hcause => ?_) hnull
    rw [locate, if_neg hnull] at h
    split at h
    · obtain rfl := Except.error.inj h
      exact absurd hcause (by simp)
    · cases hfollow : fs.follow { p with names := [] } p.names with
      | ok q => simp [hfollow, Except.mapError] at h
      | error c =>
        rw [hfollow] at h
        obtain rfl := Except.error.inj h
        exact follow_ne_nullCharacter (hfollow.trans (congrArg Except.error hcause))

/-- A path leads to its place or nowhere. -/
theorem place_of_locate (h : fs.locate p = .ok q) : q = p.place :=
  follow_eq_enterAll (locate_eq_ok_iff.1 h).2.2

theorem locate_mono (hmore : ∀ r, fs.get? r = some .directory → fs'.get? r = some .directory)
    (h : fs.locate p = .ok q) : fs'.locate p = .ok q :=
  locate_eq_ok_iff.2 ((locate_eq_ok_iff.1 h).imp_right (And.imp_right (follow_mono hmore)))

theorem look_eq_some_iff {e : FileEntry} :
    fs.look p = some e ↔ fs.locate p = .ok p.place ∧ fs.get? p.place = some e := by
  unfold look
  cases h : fs.locate p with
  | error c => simp
  | ok q =>
    obtain rfl := place_of_locate h
    simp

/-- A path leads on by a name if there is a directory at its end and it can
hold that name. -/
theorem locate_join_iff :
    fs.locate (p.join name) = .ok q ↔
      fs.look p = some .directory ∧ p.CanHold name ∧ q = (p.join name).place := by
  have hnull : (p.join name).holdsNull = false ↔ p.holdsNull = false ∧ '\x00' ∉ name := by
    rw [Path.holdsNull_eq_false_iff, Path.holdsNull_eq_false_iff, Path.join,
      List.forall_mem_append, List.forall_mem_singleton]
  rw [locate_eq_ok_iff, hnull, Path.place_join, look_eq_some_iff]
  change _ ∧ _ ∧ fs.follow { p with names := [] } (p.names ++ [name]) = .ok q ↔ _
  rw [follow_concat_iff]
  constructor
  · rintro ⟨⟨hp, hname⟩, hlong, r, hr, hdir, hshort, rfl⟩
    have hlocate : fs.locate p = .ok r := locate_eq_ok_iff.2 ⟨hp, Path.isLong_of_join hlong, hr⟩
    obtain rfl := place_of_locate hlocate
    exact ⟨⟨hlocate, hdir⟩, ⟨⟨hname, hshort⟩, hlong⟩, rfl⟩
  · rintro ⟨⟨hlocate, hdir⟩, ⟨⟨hname, hshort⟩, hlong⟩, rfl⟩
    obtain ⟨hp, -, hfollow⟩ := locate_eq_ok_iff.1 hlocate
    exact ⟨⟨hp, hname⟩, hlong, p.place, hfollow, hdir, hshort, rfl⟩

theorem look_start (rooted : Bool) : fs.look ⟨rooted, []⟩ = some .directory := by
  have hlocate : fs.locate ⟨rooted, []⟩ = .ok ⟨rooted, []⟩ :=
    locate_eq_ok_iff.2 ⟨rfl, Path.isLong_start rooted, rfl⟩
  rw [look, hlocate]
  rfl

/-- **At the end of a path there is a directory exactly if the path can be
followed and there is one at each place that it passes.** -/
theorem look_eq_directory_iff :
    fs.look p = some .directory ↔
      p.CanLead ∧ ∀ q, p.Passes q → fs.get? q = some .directory := by
  induction p using Path.joinInduction with
  | start rooted =>
    have hlead : Path.CanLead ⟨rooted, []⟩ := ⟨by simp, Path.isLong_start rooted⟩
    refine iff_of_true (look_start rooted) ⟨hlead, fun q hq => ?_⟩
    rw [Path.passes_start_iff.1 hq]
    rfl
  | join p name ih =>
    rw [look_eq_some_iff, locate_join_iff, ih, Path.canLead_join_iff]
    constructor
    · rintro ⟨⟨⟨hlead, hway⟩, hname, -⟩, hend⟩
      refine ⟨⟨hlead, hname⟩, fun q hq => ?_⟩
      rcases Path.passes_join_iff.1 hq with hq | rfl
      · exact hway q hq
      · exact hend
    · rintro ⟨⟨hlead, hname⟩, h⟩
      exact ⟨⟨⟨hlead, fun q hq => h q (Path.passes_join_iff.2 (.inl hq))⟩, hname, rfl⟩,
        h _ (Path.passes_place _)⟩

end FileSystem

end HandlerGen
