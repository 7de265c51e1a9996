import HandlerGen.DocComment
import Mathlib.Data.List.DropRight
/-!
# The lines of a doc comment

What a line of a description can no longer hold once it stands in a doc
comment: a line feed (`break_notMem_of_mem_lines`) and the pair of
characters that closes a block comment (`closing_not_infix_of_mem_lines`).
Cutting and trimming take parts of the escaped text, and a part of a text
without the pair is without it too.
-/

namespace HandlerGen

/-! ## Trimming -/

/-- Dropping from the end, read from the front. -/
theorem rdropWhile_cons {α : Type} (p : α → Bool) (x : α) (l : List α) :
    (x :: l).rdropWhile p = if l.rdropWhile p = [] ∧ p x = true then [] else
      x :: l.rdropWhile p := by
  rw [List.rdropWhile, List.reverse_cons, List.dropWhile_append, List.rdropWhile]
  by_cases hl : l.reverse.dropWhile p = []
  · by_cases hx : p x = true
    · simp [hl, hx]
    · simp [hl, hx]
  · simp [hl]

namespace Text

/-- White space is dropped from the end. -/
theorem trimEnd_eq_rdropWhile (t : Text) : trimEnd t = t.rdropWhile HandlerGen.isBlank := by
  induction t with
  | nil => rfl
  | cons c t ih =>
    rw [trimEnd, rdropWhile_cons, ih]
    cases t.rdropWhile HandlerGen.isBlank with
    | nil => simp
    | cons d u => simp

/-- What is left of a trimmed text stands at its start. -/
theorem trimEnd_prefix (t : Text) : trimEnd t <+: t := by
  rw [trimEnd_eq_rdropWhile]
  exact List.rdropWhile_prefix _ _

end Text

/-- Empty lines are dropped from the end. -/
theorem DocComment.dropLastEmpty_eq_rdropWhile (ls : List Text) :
    dropLastEmpty ls = ls.rdropWhile List.isEmpty := by
  induction ls with
  | nil => rfl
  | cons l ls ih =>
    rw [dropLastEmpty, rdropWhile_cons, ih]
    cases ls.rdropWhile List.isEmpty with
    | nil => simp
    | cons m ms => simp

namespace Text

/-! ## Cutting -/

/-- The first piece of a text stands at its start, and the others stand
somewhere in it. -/
theorem pieces_of_splitOn {x : Char} {t p : Text} {ps : List Text} (h : t.splitOn x = p :: ps) :
    p <+: t ∧ ∀ q ∈ ps, q <:+: t := by
  induction t generalizing p ps with
  | nil =>
    obtain ⟨rfl, rfl⟩ := List.cons.inj h
    exact ⟨List.prefix_rfl, fun q hq => absurd hq List.not_mem_nil⟩
  | cons c t ih =>
    obtain ⟨q, qs, hq⟩ := List.exists_cons_of_ne_nil (List.splitOn_ne_nil x t)
    obtain ⟨hfirst, hothers⟩ := ih hq
    rw [List.splitOn_cons_eq_if_modifyHead, hq] at h
    split at h
    · obtain ⟨rfl, rfl⟩ := List.cons.inj h
      refine ⟨List.nil_prefix, fun r hr => ?_⟩
      rcases List.mem_cons.1 hr with rfl | hr
      · exact List.infix_cons hfirst.isInfix
      · exact List.infix_cons (hothers r hr)
    · obtain ⟨rfl, rfl⟩ := List.cons.inj h
      exact ⟨List.cons_prefix_cons.2 ⟨rfl, hfirst⟩, fun r hr => List.infix_cons (hothers r hr)⟩

/-- So every piece of a text stands somewhere in it. -/
theorem infix_of_mem_splitOn {x : Char} {t p : Text} (h : p ∈ t.splitOn x) : p <:+: t := by
  obtain ⟨q, qs, hq⟩ := List.exists_cons_of_ne_nil (List.splitOn_ne_nil x t)
  obtain ⟨hfirst, hothers⟩ := pieces_of_splitOn hq
  rw [hq] at h
  rcases List.mem_cons.1 h with rfl | h
  · exact hfirst.isInfix
  · exact hothers p h

/-- The character that a text is cut at is in none of its pieces. -/
theorem notMem_of_mem_splitOn {x : Char} {t p : Text} (h : p ∈ t.splitOn x) : x ∉ p := by
  induction t generalizing p with
  | nil =>
    rw [List.splitOn_nil, List.mem_singleton] at h
    exact h ▸ List.not_mem_nil
  | cons c t ih =>
    obtain ⟨q, qs, hq⟩ := List.exists_cons_of_ne_nil (List.splitOn_ne_nil x t)
    rw [List.splitOn_cons_eq_if_modifyHead, hq] at h
    rw [hq] at ih
    split at h
    · rcases List.mem_cons.1 h with rfl | h
      · exact List.not_mem_nil
      · exact ih h
    · next hc =>
      rcases List.mem_cons.1 h with rfl | h
      · rw [List.mem_cons, not_or]
        exact ⟨fun hx => hc (by rw [hx, beq_self_eq_true]), ih List.mem_cons_self⟩
      · exact ih (List.mem_cons_of_mem q h)

end Text

namespace DocComment

/-! ## Escaping -/

/-- The pair of characters that closes a block comment. -/
def closing : Text := ['*', '/']

/-- Escaping keeps the first character. -/
theorem head?_escape (t : Text) : (escape t).head? = t.head? := by
  fun_cases escape t with
  | case1 => rfl
  | case2 => rfl
  | case3 => rfl

/-- **An escaped text closes no comment.** -/
theorem closing_not_infix_escape (t : Text) : ¬ closing <:+: escape t := by
  fun_induction escape t with
  | case1 => exact fun h => absurd (List.infix_nil.1 h) (List.cons_ne_nil _ _)
  | case2 t ih =>
    simp [closing, List.infix_cons_iff] at ih ⊢
    exact ih
  | case3 c t hpair ih =>
    rw [List.infix_cons_iff, not_or]
    refine ⟨fun h => ?_, ih⟩
    -- the pair would have its slash from the text itself
    obtain ⟨hc, hslash⟩ := List.cons_prefix_cons.1 h
    have hhead : (escape t).head? = some '/' := by
      obtain ⟨u, hu⟩ := hslash
      rw [← hu]
      rfl
    rw [head?_escape] at hhead
    obtain ⟨u, rfl⟩ := List.head?_eq_some_iff.1 hhead
    exact hpair u hc.symm rfl

/-! ## Lines -/

/-- A line of a comment is the start of a line of the escaped text. -/
theorem exists_line_of_mem_lines {d l : Text} (h : l ∈ lines d) :
    ∃ p ∈ Text.lines (escape d.unifyBreaks), l <+: p := by
  rw [lines, dropLastEmpty_eq_rdropWhile] at h
  obtain ⟨p, hp, rfl⟩ := List.mem_map.1 ((List.rdropWhile_prefix _ _).subset h)
  exact ⟨p, hp, Text.trimEnd_prefix p⟩

/-- **No line of a comment holds a line feed.** -/
theorem break_notMem_of_mem_lines {d l : Text} (h : l ∈ lines d) : '\n' ∉ l := by
  obtain ⟨p, hp, hstart⟩ := exists_line_of_mem_lines h
  exact fun hbreak => Text.notMem_of_mem_splitOn hp (hstart.subset hbreak)

/-- **No line of a comment closes it.** -/
theorem closing_not_infix_of_mem_lines {d l : Text} (h : l ∈ lines d) : ¬ closing <:+: l := by
  obtain ⟨p, hp, hstart⟩ := exists_line_of_mem_lines h
  exact fun hclosing => closing_not_infix_escape _
    (hclosing.trans (hstart.isInfix.trans (Text.infix_of_mem_splitOn hp)))

end DocComment

end HandlerGen
