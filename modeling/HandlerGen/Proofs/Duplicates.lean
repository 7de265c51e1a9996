import HandlerGen.Context
import Mathlib.Data.List.Basic
/-!
# Names that come more than once

The names that more than one descriptor has are given in the order in
which they come first, each once: **they are the repeated names of the
list** (`areRepeated_duplicateNames`). A context warns of each of them with
one line (`Context.warnings_eq`).
-/

namespace HandlerGen

/-- The names of a list that come more than once in it, in the order in
which they come first. -/
structure AreRepeated (names ns : List Text) : Prop where
  mem_iff : ∀ n, n ∈ ns ↔ 2 ≤ names.count n
  inOrder : ns.Pairwise fun m n => names.idxOf m < names.idxOf n

/-- The members of a list come in the order of their first places. -/
theorem pairwise_distinct (ts : List Text) :
    (distinct ts).Pairwise fun m n => ts.idxOf m < ts.idxOf n := by
  induction ts with
  | nil => exact List.Pairwise.nil
  | cons t ts ih =>
    -- the place of any other member is one further than without the first
    have hplace : ∀ {m}, m ∈ (distinct ts).filter (· != t) →
        (t :: ts).idxOf m = ts.idxOf m + 1 := by
      intro m hm
      have hne : t ≠ m := by
        rintro rfl
        simp at hm
      exact List.idxOf_cons_ne ts hne
    rw [distinct, List.pairwise_cons]
    constructor
    · intro m hm
      rw [hplace hm, List.idxOf_cons_self]
      exact Nat.succ_pos _
    · refine (ih.filter _).imp_of_mem fun hm hn hlt => ?_
      rw [hplace hm, hplace hn]
      exact Nat.succ_lt_succ hlt

/-- **Duplicate names are the repeated ones.** -/
theorem areRepeated_duplicateNames (ds : List Descriptor) :
    AreRepeated (ds.map Descriptor.name) (duplicateNames ds) where
  mem_iff n := by
    have hmem : 2 ≤ (ds.map Descriptor.name).count n → n ∈ ds.map Descriptor.name := fun h =>
      List.count_pos_iff.1 (Nat.lt_of_lt_of_le Nat.two_pos h)
    rw [duplicateNames, List.mem_filter, mem_distinct, decide_eq_true_iff]
    exact ⟨And.right, fun h => ⟨hmem h, h⟩⟩
  inOrder := (pairwise_distinct _).filter _

namespace Context

/-- The line that warns of a name that is defined more than once. -/
def warningLine (name : Text) : Text :=
  "Warning: handler '" ++ name
    ++ "' is defined more than once; the last definition wins in the dispatch map"

theorem warning_eq (name : Text) : warning name = warningLine name ++ ['\n'] := by
  have hbreak :
      ("' is defined more than once; the last definition wins in the dispatch map\n" : Text)
        = "' is defined more than once; the last definition wins in the dispatch map" ++ ['\n'] := by
    decide
  unfold warning warningLine
  rw [hbreak, ← List.append_assoc]

/-- The warnings are lines, one for each name that is told. -/
theorem warnings_eq (c : Context) : c.warnings = Text.ofLines (c.duplicates.map warningLine) := by
  rw [warnings, Text.ofLines, List.flatMap_map]
  exact List.flatMap_congr fun n _ => warning_eq n

end Context

end HandlerGen
