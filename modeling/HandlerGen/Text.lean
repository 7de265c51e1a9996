/-!
# Text

A text is its list of characters, so that every rule of the library can
read it from the front and be reasoned about by induction. A character is
one of those that files can hold: one half of a surrogate pair has a code
point too, but no encoding, and is in no text. Two of the
operations here are shared by the reader of handler files and by the
layout of doc comments: the three spellings of a line end become one
(`unifyBreaks`), and a text is cut into its lines (`lines`).
-/

namespace HandlerGen

/-- A text, read from the front one character at a time. -/
abbrev Text := List Char

namespace Text

/-- A string literal stands for the text of its characters. -/
instance : Coe String Text := ⟨String.toList⟩

/-- Every line end becomes a line feed: the pair of carriage return and
line feed counts once, and a lone carriage return counts too. -/
def unifyBreaks : Text → Text
  | [] => []
  | '\r' :: '\n' :: t => '\n' :: unifyBreaks t
  | c :: t => (if c = '\r' then '\n' else c) :: unifyBreaks t

/-- No carriage return is left. -/
theorem return_notMem_unifyBreaks (t : Text) : '\r' ∉ unifyBreaks t := by
  fun_induction unifyBreaks t with
  | case1 => exact List.not_mem_nil
  | case2 t ih =>
    rw [List.mem_cons]
    rintro (h | h)
    · exact absurd h (by decide)
    · exact ih h
  | case3 c t _ ih =>
    rw [List.mem_cons]
    rintro (h | h)
    · split at h
      · exact absurd h (by decide)
      · next hc => exact hc h.symm
    · exact ih h

/-- A text without carriage returns stays as it is. -/
theorem unifyBreaks_of_notMem {t : Text} (h : '\r' ∉ t) : unifyBreaks t = t := by
  fun_induction unifyBreaks t with
  | case1 => rfl
  | case2 t _ => exact absurd (List.mem_cons_self ..) h
  | case3 c t _ ih =>
    rw [List.mem_cons, not_or] at h
    rw [ih h.2, if_neg (fun hc => h.1 hc.symm)]

/-- So the line ends of a text are unified once and for all. -/
theorem unifyBreaks_unifyBreaks (t : Text) : unifyBreaks (unifyBreaks t) = unifyBreaks t :=
  unifyBreaks_of_notMem (return_notMem_unifyBreaks t)

/-- The lines of a text that uses the line feed alone. A text with `n`
line feeds has `n + 1` lines, so there is always one. -/
def lines (t : Text) : List Text := t.splitOn '\n'

/-- The lines of a text, one after another, each closed by a line feed. -/
def ofLines (ls : List Text) : Text := ls.flatMap (· ++ ['\n'])

/-- Whether a text comes before another or is the same, in the order of
their first characters that differ. -/
def precedes : Text → Text → Bool
  | [], _ => true
  | _ :: _, [] => false
  | a :: s, b :: t => if a = b then precedes s t else a.toNat < b.toNat

end Text

end HandlerGen
