/-!
# Entries in order

A mapping whose order shows is the list of its entries. Writing to a key
that has an entry keeps the entry's place and replaces its value, and a
new key goes to the end (`put`); so a list of entries read one by one
(`ofPairs`) has each key once, at its first place and with its last
value.
-/

namespace HandlerGen

namespace Entries

variable {κ α : Type} [DecidableEq κ]

/-- Gives a key a value: in its place if it has one, else at the end. -/
def put (k : κ) (a : α) : List (κ × α) → List (κ × α)
  | [] => [(k, a)]
  | (k', b) :: es => if k' = k then (k', a) :: es else (k', b) :: put k a es

/-- The entries after giving each key of a list its value, in order. -/
def ofPairs (ps : List (κ × α)) : List (κ × α) :=
  ps.foldl (fun es p => put p.1 p.2 es) []

/-- A key is there after a write if it was there or is the one written. -/
theorem mem_keys_put {k k' : κ} {a : α} {es : List (κ × α)} :
    k' ∈ (put k a es).map Prod.fst ↔ k' = k ∨ k' ∈ es.map Prod.fst := by
  induction es with
  | nil => simp [put]
  | cons e es ih =>
    obtain ⟨k₀, b⟩ := e
    by_cases h : k₀ = k
    · subst h
      simp [put]
    · simp only [put, if_neg h, List.map_cons, List.mem_cons, ih]
      exact or_left_comm

/-- **A key has the value that was written last.** -/
theorem lookup_put [BEq κ] [LawfulBEq κ] (k k' : κ) (a : α) (es : List (κ × α)) :
    (put k a es).lookup k' = if k' = k then some a else es.lookup k' := by
  have other {x y : κ} (h : x ≠ y) : (x == y) = false := beq_eq_false_iff_ne.2 h
  induction es with
  | nil =>
    by_cases h : k' = k
    · simp [put, h]
    · simp [put, List.lookup_cons, h, other h]
  | cons e es ih =>
    obtain ⟨k₀, b⟩ := e
    by_cases h₀ : k₀ = k
    -- the first entry is the one that is written
    · subst h₀
      by_cases h : k' = k₀
      · simp [put, h]
      · simp [put, List.lookup_cons, h, other h]
    · rw [put, if_neg h₀]
      by_cases h : k' = k₀
      · subst h
        simp [h₀]
      · simp [List.lookup_cons, other h, ih]

/-- **A write keeps the keys apart.** -/
theorem nodup_keys_put {k : κ} {a : α} {es : List (κ × α)} (h : (es.map Prod.fst).Nodup) :
    ((put k a es).map Prod.fst).Nodup := by
  induction es with
  | nil => simp [put]
  | cons e es ih =>
    obtain ⟨k₀, b⟩ := e
    rw [List.map_cons, List.nodup_cons] at h
    by_cases hk : k₀ = k
    · subst hk
      simpa [put] using h
    · rw [put, if_neg hk, List.map_cons, List.nodup_cons]
      refine ⟨fun hmem => ?_, ih h.2⟩
      rcases mem_keys_put.1 hmem with heq | hin
      · exact hk heq
      · exact h.1 hin

/-- **No key has two entries** in a list that was read one by one. -/
theorem nodup_keys_ofPairs (ps : List (κ × α)) : ((ofPairs ps).map Prod.fst).Nodup := by
  have step : ∀ (ps es : List (κ × α)), (es.map Prod.fst).Nodup →
      ((ps.foldl (fun es p => put p.1 p.2 es) es).map Prod.fst).Nodup := by
    intro ps
    induction ps with
    | nil => exact fun es h => h
    | cons p ps ih => exact fun es h => ih _ (nodup_keys_put h)
  exact step ps [] List.nodup_nil

end Entries

end HandlerGen
