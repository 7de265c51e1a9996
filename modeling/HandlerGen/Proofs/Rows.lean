/-!
# Rows of steps

Steps that are taken for one member of a list after the other, each of
which may fail. **All succeed and give a list of results, one for each
member** (`mapM_eq_ok_iff`), **or the first that fails decides**
(`mapM_eq_error_iff`), so that what is behind it does not matter.
-/

namespace HandlerGen

variable {ε α β γ : Type} {f : α → Except ε β} {as : List α} {e : ε}

/-- Steps that all succeed give the list of their results. -/
theorem mapM_map_eq_ok {g : γ → α} {h : γ → β} (hf : ∀ c, f (g c) = .ok (h c)) (cs : List γ) :
    (cs.map g).mapM f = .ok (cs.map h) := by
  induction cs with
  | nil => rfl
  | cons c cs ih =>
    rw [List.map_cons, List.mapM_cons, hf, ih]
    rfl

theorem map_eq_of_mapM_eq_ok {bs : List β} (h : as.mapM f = .ok bs) : as.map f = bs.map .ok := by
  induction as generalizing bs with
  | nil =>
    obtain rfl := Except.ok.inj h
    rfl
  | cons a as ih =>
    rw [List.mapM_cons] at h
    cases ha : f a with
    | error e =>
      rw [ha] at h
      exact absurd h (by simp [bind, Except.bind])
    | ok b =>
      rw [ha] at h
      cases has : as.mapM f with
      | error e =>
        rw [has] at h
        exact absurd h (by simp [bind, Except.bind])
      | ok cs =>
        rw [has] at h
        obtain rfl := Except.ok.inj h
        rw [List.map_cons, List.map_cons, ha, ih has]

/-- **Steps give a list of results just if it has the result of each, in
order.** -/
theorem mapM_eq_ok_iff {bs : List β} : as.mapM f = .ok bs ↔ as.map f = bs.map .ok := by
  refine ⟨map_eq_of_mapM_eq_ok, fun h => ?_⟩
  calc as.mapM f = (as.map f).mapM id := (List.mapM_map (f := f) (g := id)).symm
    _ = (bs.map .ok).mapM id := by rw [h]
    _ = .ok (bs.map id) := mapM_map_eq_ok (f := id) (h := id) (fun _ => rfl) bs
    _ = .ok bs := by rw [List.map_id]

theorem mapM_of_error {before after : List α} {a : α} (hbefore : ∀ b ∈ before, ∃ c, f b = .ok c)
    (ha : f a = .error e) : (before ++ a :: after).mapM f = .error e := by
  induction before with
  | nil =>
    rw [List.nil_append, List.mapM_cons, ha]
    rfl
  | cons b before ih =>
    obtain ⟨c, hc⟩ := hbefore b List.mem_cons_self
    rw [List.cons_append, List.mapM_cons, hc, ih fun b hb => hbefore b (List.mem_cons_of_mem _ hb)]
    rfl

theorem exists_of_mapM_eq_error (h : as.mapM f = .error e) :
    ∃ before a after, as = before ++ a :: after ∧ (∀ b ∈ before, ∃ c, f b = .ok c)
      ∧ f a = .error e := by
  induction as with
  | nil => exact absurd h (by simp [pure, Except.pure])
  | cons a as ih =>
    rw [List.mapM_cons] at h
    cases ha : f a with
    | error e' =>
      rw [ha] at h
      obtain rfl := Except.error.inj h
      exact ⟨[], a, as, rfl, List.forall_mem_nil _, ha⟩
    | ok b =>
      rw [ha] at h
      cases has : as.mapM f with
      | error e' =>
        rw [has] at h
        obtain rfl := Except.error.inj h
        obtain ⟨before, a', after, rfl, hbefore, ha'⟩ := ih has
        exact ⟨a :: before, a', after, rfl, List.forall_mem_cons.2 ⟨⟨b, ha⟩, hbefore⟩, ha'⟩
      | ok bs =>
        rw [has] at h
        exact absurd h (by simp [bind, Except.bind, pure, Except.pure])

/-- **Steps fail just if one does, and the first one that does
decides.** -/
theorem mapM_eq_error_iff :
    as.mapM f = .error e ↔
      ∃ before a after, as = before ++ a :: after ∧ (∀ b ∈ before, ∃ c, f b = .ok c)
        ∧ f a = .error e := by
  refine ⟨exists_of_mapM_eq_error, ?_⟩
  rintro ⟨before, a, after, rfl, hbefore, ha⟩
  exact mapM_of_error hbefore ha

/-- They all succeed just if each does. -/
theorem exists_mapM_eq_ok_iff : (∃ bs, as.mapM f = .ok bs) ↔ ∀ a ∈ as, ∃ b, f a = .ok b := by
  constructor
  · rintro ⟨bs, h⟩ a ha
    have hresult : f a ∈ bs.map .ok := map_eq_of_mapM_eq_ok h ▸ List.mem_map_of_mem ha
    obtain ⟨b, -, hb⟩ := List.mem_map.1 hresult
    exact ⟨b, hb.symm⟩
  · intro h
    cases has : as.mapM f with
    | ok bs => exact ⟨bs, rfl⟩
    | error e =>
      obtain ⟨before, a, after, rfl, -, ha⟩ := exists_of_mapM_eq_error has
      obtain ⟨b, hb⟩ := h a (List.mem_append_right _ List.mem_cons_self)
      exact absurd (ha.symm.trans hb) (by simp)

/-- They fail just if one does. -/
theorem exists_mapM_eq_error_iff :
    (∃ e, as.mapM f = .error e) ↔ ∃ a ∈ as, ∃ e, f a = .error e := by
  constructor
  · rintro ⟨e, h⟩
    obtain ⟨before, a, after, rfl, -, ha⟩ := exists_of_mapM_eq_error h
    exact ⟨a, List.mem_append_right _ List.mem_cons_self, e, ha⟩
  · rintro ⟨a, hmem, e, ha⟩
    cases has : as.mapM f with
    | error e => exact ⟨e, rfl⟩
    | ok bs =>
      obtain ⟨b, hb⟩ := exists_mapM_eq_ok_iff.1 ⟨bs, has⟩ a hmem
      exact absurd (ha.symm.trans hb) (by simp)

/-! ## Changes of one member -/

variable {change : α → α}

/-- A change that a step is not touched by may be made anywhere. -/
theorem mapM_modify_of_eq (h : ∀ a, f (change a) = f a) (as : List α) (i : Nat) :
    (as.modify i change).mapM f = as.mapM f := by
  induction as generalizing i with
  | nil => rw [List.modify_nil]
  | cons a as ih =>
    cases i with
    | zero => rw [List.modify_zero_cons, List.mapM_cons, List.mapM_cons, h]
    | succ i => rw [List.modify_succ_cons, List.mapM_cons, List.mapM_cons, ih]

/-- A change that makes a step fail makes all fail, wherever it is. -/
theorem mapM_modify_of_error {i : Nat} {a : α} (has : ∀ b ∈ as, ∃ c, f b = .ok c)
    (ha : as[i]? = some a) (hx : f (change a) = .error e) :
    (as.modify i change).mapM f = .error e := by
  obtain ⟨hi, rfl⟩ := List.getElem?_eq_some_iff.1 ha
  rw [List.modify_eq_take_cons_drop hi]
  exact mapM_of_error (fun b hb => has b (List.mem_of_mem_take hb)) hx

end HandlerGen
