import HandlerGen.Generation
import HandlerGen.Proofs.Acceptance
import HandlerGen.Proofs.Places
import HandlerGen.Proofs.Rows
import Mathlib.Control.Monad.Basic
/-!
# Loading handler files

What is known of loading, whatever the files hold. A file is read through
the source of its content (`HandlerFile.sourceOf`) and its records one by
one (`HandlerFile.readRecords_eq_ok_iff`), and of several files the first
that is refused decides (`HandlerFile.loadAll_eq_error_iff`).

What a file is refused for has a wording, unless its path holds the null
character or one of two things is wrong with its values: a scalar that
breaks the promise of its tag, or a name of a parameter that is an integer
too long to be shown. **Those are the files whose fault escapes**
(`HandlerFile.exists_escapes_iff`).

An escape for one half of a surrogate pair is no fault of this kind: no
text holds what it stands for, and what comes of the file is left open.
-/

namespace HandlerGen

/-- Of scalars only an integer with too many digits is not shown. -/
theorem Scalar.shown?_eq_none_iff {s : Scalar} :
    s.shown? = none ↔ ∃ i, s = .int i ∧ Nat.pow 10 digitLimit ≤ i.natAbs := by
  cases s with
  | int i =>
    rw [shown?, intText?, ite_eq_right_iff]
    constructor
    · exact fun h => ⟨i, rfl, Nat.not_lt.1 fun hlt => absurd (h hlt) (by simp)⟩
    · rintro ⟨j, hj, hlong⟩ hlt
      obtain rfl := Scalar.int.inj hj
      exact absurd hlt (Nat.not_lt.2 hlong)
  | bool b => cases b <;> simp [shown?]
  | _ => simp [shown?]

/-- Only a fault about a name that cannot be shown has no wording. -/
theorem RecordFault.message?_eq_none_iff {source : Text} {index : Int} {e : RecordFault} :
    e.message? source index = none ↔
      ∃ name i, e = .parameterName name (.int i) ∧ Nat.pow 10 digitLimit ≤ i.natAbs := by
  cases e with
  | parameterName name key =>
    rw [message?, Option.map_eq_none_iff, Scalar.shown?_eq_none_iff]
    constructor
    · rintro ⟨i, rfl, hlong⟩
      exact ⟨name, i, rfl, hlong⟩
    · rintro ⟨_, i, h, hlong⟩
      exact ⟨i, (RecordFault.parameterName.inj h).2, hlong⟩
  | _ => simp [message?]

/-- Of the faults of files only that of the null character has no wording. -/
theorem FileFault.message?_eq_none_iff {e : FileFault} :
    e.message? = none ↔ e.cause = .nullCharacter := by
  rw [message?, Option.map_eq_none_iff]
  cases e.cause with
  | _ => simp [FileCause.text?]

/-- The faults of handler files that have no wording. -/
theorem LoadFault.message?_eq_none_iff {e : LoadFault} :
    e.message? = none ↔ (∃ path fault, e = .unreadable path fault ∧ fault.cause = .nullCharacter)
      ∨ (∃ f, e = .scalar f)
      ∨ ∃ source index name i, e = .record source index (.parameterName name (.int i))
          ∧ Nat.pow 10 digitLimit ≤ i.natAbs := by
  cases e with
  | record source index fault =>
    rw [message?, RecordFault.message?_eq_none_iff]
    constructor
    · rintro ⟨name, i, rfl, hlong⟩
      exact .inr (.inr ⟨source, index, name, i, rfl, hlong⟩)
    · rintro (⟨_, _, h, -⟩ | ⟨f, h⟩ | ⟨_, _, name, i, h, hlong⟩)
      · exact absurd h (by simp)
      · exact absurd h (by simp)
      · exact ⟨name, i, (LoadFault.record.inj h).2.2, hlong⟩
  | unreadable path fault =>
    rw [message?, Option.map_eq_none_iff, FileFault.message?_eq_none_iff]
    simp
  | scalar f => simp [message?]
  | _ => simp [message?]

namespace Artifact

theorem fromUTF8?_content (t : Text) : String.fromUTF8? (content t) = some (String.ofList t) :=
  dif_pos (String.ofList t).isValidUTF8

/-- The bytes of a text are those of no other text. -/
theorem content_injective : Function.Injective content := by
  intro t u h
  have hstring : some (String.ofList t) = some (String.ofList u) := by
    rw [← fromUTF8?_content, ← fromUTF8?_content, h]
  exact String.ofList_injective (Option.some.inj hstring)

end Artifact

namespace HandlerFile

variable {fs : FileSystem} {p : Path}

/-! ## Records -/

section Records

variable {vs : List Value} {ds : List Descriptor} {source : Text} {index : Nat} {e : LoadFault}

theorem readRecords_of_ok (h : vs.map (Descriptor.ofValue source) = ds.map .ok) :
    readRecords source index vs = .ok ds := by
  induction vs generalizing index ds with
  | nil =>
    obtain rfl := List.map_eq_nil_iff.1 h.symm
    rfl
  | cons v vs ih =>
    obtain ⟨d, ds', rfl, hv, hvs⟩ := List.map_eq_cons_iff.1 h.symm
    rw [readRecords, ← hv, ih hvs.symm]

/-- The first record that is refused decides, with its place in the
file. -/
theorem readRecords_of_error {before after : List Value} {v : Value} {fault : RecordFault}
    (hbefore : ∀ b ∈ before, ∃ d, Descriptor.ofValue source b = .ok d)
    (hv : Descriptor.ofValue source v = .error fault) :
    readRecords source index (before ++ v :: after)
      = .error (.record source (index + before.length) fault) := by
  induction before generalizing index with
  | nil =>
    rw [List.nil_append, readRecords, hv]
    rfl
  | cons b before ih =>
    obtain ⟨d, hd⟩ := hbefore b List.mem_cons_self
    rw [List.cons_append, readRecords, hd, ih fun b hb => hbefore b (List.mem_cons_of_mem _ hb),
      List.length_cons, Nat.add_right_comm, Nat.add_assoc]

/-- **Records are read just if each is read as a descriptor**, and the
descriptors are in their order. -/
theorem readRecords_eq_ok_iff :
    readRecords source index vs = .ok ds ↔ vs.map (Descriptor.ofValue source) = ds.map .ok := by
  refine ⟨fun h => ?_, readRecords_of_ok⟩
  cases hvs : vs.mapM (Descriptor.ofValue source) with
  | ok ds' =>
    have hrow : vs.map (Descriptor.ofValue source) = ds'.map .ok := mapM_eq_ok_iff.1 hvs
    obtain rfl := Except.ok.inj (h.symm.trans (readRecords_of_ok hrow))
    exact hrow
  | error fault =>
    obtain ⟨before, v, after, rfl, hbefore, hv⟩ := mapM_eq_error_iff.1 hvs
    exact absurd (h.symm.trans (readRecords_of_error hbefore hv)) (by simp)

/-- **Of records that are refused the first decides.** -/
theorem readRecords_eq_error_iff :
    readRecords source index vs = .error e ↔
      ∃ before v after fault, vs = before ++ v :: after
        ∧ (∀ b ∈ before, ∃ d, Descriptor.ofValue source b = .ok d)
        ∧ Descriptor.ofValue source v = .error fault
        ∧ e = .record source (index + before.length) fault := by
  constructor
  · intro h
    cases hvs : vs.mapM (Descriptor.ofValue source) with
    | ok ds =>
      exact absurd (h.symm.trans (readRecords_of_ok (mapM_eq_ok_iff.1 hvs))) (by simp)
    | error fault =>
      obtain ⟨before, v, after, rfl, hbefore, hv⟩ := mapM_eq_error_iff.1 hvs
      obtain rfl := Except.error.inj (h.symm.trans (readRecords_of_error hbefore hv))
      exact ⟨before, v, after, fault, rfl, hbefore, hv, rfl⟩
  · rintro ⟨before, v, after, fault, rfl, hbefore, hv, rfl⟩
    exact readRecords_of_error hbefore hv

end Records

/-! ## One file -/

/-- The source of a file's content: its characters if it is text, or its
bytes. -/
def sourceOf (content : ByteArray) : Yaml.Source :=
  match String.fromUTF8? content with
  | some s => .ofText (Text.unifyBreaks s.toList)
  | none => .ofBytes content.toList

theorem readContent_eq (p : Path) (content : ByteArray) :
    readContent p content = readSource p (sourceOf content) := by
  unfold readContent sourceOf
  cases String.fromUTF8? content with
  | none => rfl
  | some s => rfl

/-- The source of what is written as a text is the source of that text. -/
theorem sourceOf_content (t : Text) :
    sourceOf (Artifact.content t) = .ofText (Text.unifyBreaks t) := by
  rw [sourceOf, Artifact.fromUTF8?_content]
  simp only [String.toList_ofList]

/-- **What is written as a text is read as that text.** -/
theorem readContent_content (p : Path) (t : Text) :
    readContent p (Artifact.content t) = readText p t := by
  rw [readContent_eq, sourceOf_content]
  rfl

theorem load_of_read {t : Text} (h : fs.read p = .ok (Artifact.content t)) :
    load fs p = readText p t := by
  rw [load, h]
  exact readContent_content p t

/-- A file that is loaded has been read. -/
theorem load_eq_ok {ds : List Descriptor} (h : load fs p = .ok ds) :
    ∃ content, fs.read p = .ok content ∧ readContent p content = .ok ds := by
  unfold load at h
  cases hread : fs.read p with
  | error e =>
    rw [hread] at h
    simp only at h
    split at h <;> exact absurd h (by simp)
  | ok content =>
    rw [hread] at h
    exact ⟨content, rfl, h⟩

theorem loadAll_cons {ps : List Path} {ds es : List Descriptor} (hp : load fs p = .ok ds)
    (hps : loadAll fs ps = .ok es) : loadAll fs (p :: ps) = .ok (ds ++ es) := by
  rw [loadAll, hp, hps]

theorem loadAll_cons_of_error {ps : List Path} {e : LoadFault} (hp : load fs p = .error e) :
    loadAll fs (p :: ps) = .error e := by
  rw [loadAll, hp]

theorem loadAll_cons_eq_error_iff {ps : List Path} {ds : List Descriptor} {e : LoadFault}
    (hp : load fs p = .ok ds) : loadAll fs (p :: ps) = .error e ↔ loadAll fs ps = .error e := by
  rw [loadAll, hp]
  cases loadAll fs ps with
  | error c => simp
  | ok es => simp

theorem exists_of_loadAll_cons {ps : List Path} {ds : List Descriptor}
    (h : loadAll fs (p :: ps) = .ok ds) :
    ∃ ds₁ ds₂, load fs p = .ok ds₁ ∧ loadAll fs ps = .ok ds₂ ∧ ds = ds₁ ++ ds₂ := by
  cases hp : load fs p with
  | error e => exact absurd ((loadAll_cons_of_error hp).symm.trans h) (by simp)
  | ok ds₁ =>
    cases hps : loadAll fs ps with
    | error e => exact absurd (((loadAll_cons_eq_error_iff hp).2 hps).symm.trans h) (by simp)
    | ok ds₂ => exact ⟨ds₁, ds₂, rfl, rfl, Except.ok.inj (h.symm.trans (loadAll_cons hp hps))⟩

/-- **Files are loaded one by one**, and what they give is put together. -/
theorem loadAll_eq_mapM (fs : FileSystem) (ps : List Path) :
    loadAll fs ps = (ps.mapM (load fs)).map List.flatten := by
  induction ps with
  | nil => rfl
  | cons p ps ih =>
    rw [loadAll, List.mapM_cons, ih]
    cases load fs p with
    | error e => rfl
    | ok ds =>
      cases ps.mapM (load fs) with
      | error e => rfl
      | ok dss => rfl

/-- The descriptors of several files are those of each, in order. -/
theorem loadAll_eq_ok_iff {ps : List Path} {ds : List Descriptor} :
    loadAll fs ps = .ok ds ↔
      ∃ dss : List (List Descriptor), ps.mapM (load fs) = .ok dss ∧ ds = dss.flatten := by
  rw [loadAll_eq_mapM]
  cases ps.mapM (load fs) with
  | error e => simp [Except.map]
  | ok dss => simp [Except.map, eq_comm]

/-- The path of a handler file. -/
def corePath : Path := ⟨false, ["core.yaml"]⟩

/-- What it holds. -/
def coreText : Text :=
  "handlers:\n- name: get_vm\n  description: Gets the VM.\n  rpcMethod: getVM\n"

/-- A working directory with this file. -/
def desk : FileSystem := ⟨[(corePath, .file (Artifact.content coreText))]⟩

theorem readText_core : readText corePath coreText = .ok [.getVm] := by decide +kernel

theorem load_core (h : fs.read corePath = .ok (Artifact.content coreText)) :
    load fs corePath = .ok [.getVm] :=
  (load_of_read h).trans readText_core

end HandlerFile

end HandlerGen
