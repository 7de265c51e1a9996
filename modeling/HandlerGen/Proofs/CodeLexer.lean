import HandlerGen.Proofs.Literal
import HandlerGen.Proofs.NameCharacters
/-!
# Code under its comments and literals

A lexer of the generated language that leaves out comments and the inside
of double-quoted literals (`CodeLexer.run`). It goes through a text one
character at a time, so that a text can be told piece by piece: what a
piece leaves of itself depends on the state it is met in alone.

`SameCode s t u s'` says that two pieces that are met in the state `s`
leave the same and both end in `s'`. It goes through texts piece by piece
(`SameCode.append`). Any two literals are the same in this sense
(`SameCode.literal`), and lines that do not close a comment are the same
as none (`CodeLexer.run_block`).
-/

namespace HandlerGen

namespace CodeLexer

/-- Where the lexer stands. -/
inductive State
  | code
  /-- Behind a slash in the code. -/
  | slash
  | lineComment
  | blockComment
  /-- Behind an asterisk in a block comment. -/
  | asterisk
  | literal
  /-- Behind a backslash in a literal. -/
  | escape
  /-- Behind a literal that its line ends. -/
  | unclosed
deriving DecidableEq, Repr

/-- A character that ends a line. -/
def isLineEnd (c : Char) : Bool := c == '\n' || c == '\r' || c == '\u2028' || c == '\u2029'

/-- What a character does in a state, and what is left of it. -/
def step : State → Char → State × Text
  | .code, c =>
    if c = '/' then (.slash, [])
    else if c = '"' then (.literal, [c])
    else (.code, [c])
  | .slash, c =>
    if c = '/' then (.lineComment, [])
    else if c = '*' then (.blockComment, [])
    else if c = '"' then (.literal, ['/', c])
    else (.code, ['/', c])
  | .lineComment, c => if isLineEnd c then (.code, [c]) else (.lineComment, [])
  | .blockComment, c => if c = '*' then (.asterisk, []) else (.blockComment, [])
  | .asterisk, c =>
    if c = '/' then (.code, [])
    else if c = '*' then (.asterisk, [])
    else (.blockComment, [])
  | .literal, c =>
    if c = '"' then (.code, [c])
    else if c = '\\' then (.escape, [])
    else if c = '\n' ∨ c = '\r' then (.unclosed, [])
    else (.literal, [])
  | .escape, _ => (.literal, [])
  | .unclosed, _ => (.unclosed, [])

/-- Goes through a text. -/
def run : State → Text → State × Text
  | s, [] => (s, [])
  | s, c :: t => ((run (step s c).1 t).1, (step s c).2 ++ (run (step s c).1 t).2)

/-- A text is gone through piece by piece. -/
theorem run_append (s : State) (t u : Text) :
    run s (t ++ u)
      = ((run (run s t).1 u).1, (run s t).2 ++ (run (run s t).1 u).2) := by
  induction t generalizing s with
  | nil => rfl
  | cons c t ih =>
    rw [List.cons_append, run, run, ih]
    simp only [List.append_assoc]

end CodeLexer

open CodeLexer

/-- Two texts that are met in one state leave the same and end in one
state. -/
def SameCode (s : State) (t u : Text) (s' : State) : Prop :=
  ∃ left, run s t = (s', left) ∧ run s u = (s', left)

namespace SameCode

variable {s s' s'' : State} {t u t' u' : Text}

/-- **Texts are the same if their pieces are.** -/
theorem append (h : SameCode s t u s') (h' : SameCode s' t' u' s'') :
    SameCode s (t ++ t') (u ++ u') s'' := by
  obtain ⟨left, ht, hu⟩ := h
  obtain ⟨left', ht', hu'⟩ := h'
  exact ⟨left ++ left', by rw [run_append, ht, ht'], by rw [run_append, hu, hu']⟩

theorem nil (s : State) : SameCode s [] [] s := ⟨[], rfl, rfl⟩

/-- A text is the same as itself. -/
theorem refl (h : (run s t).1 = s') : SameCode s t t s' := by
  have hrun : run s t = (s', (run s t).2) := by rw [← h]
  exact ⟨_, hrun, hrun⟩

theorem symm (h : SameCode s t u s') : SameCode s u t s' := by
  obtain ⟨left, ht, hu⟩ := h
  exact ⟨left, hu, ht⟩

theorem trans (h : SameCode s t u s') (h' : SameCode s u t' s') : SameCode s t t' s' := by
  obtain ⟨left, ht, hu⟩ := h
  obtain ⟨left', hu', ht'⟩ := h'
  obtain rfl : left = left' := congrArg Prod.snd (hu.symm.trans hu')
  exact ⟨left, ht, ht'⟩

/-- The same for a text that is spelt as a literal. -/
theorem refl_ofList (h : (run s t).1 = s') : SameCode s (String.ofList t) (String.ofList t) s' := by
  rw [String.toList_ofList]
  exact refl h

/-- Rows of texts are the same if they are so one by one. -/
theorem flatMap {α : Type} {f g : α → Text} {as : List α} (h : ∀ a ∈ as, SameCode s (f a) (g a) s) :
    SameCode s (as.flatMap f) (as.flatMap g) s := by
  induction as with
  | nil => exact nil s
  | cons a as ih =>
    rw [List.flatMap_cons, List.flatMap_cons]
    exact (h a List.mem_cons_self).append (ih fun b hb => h b (List.mem_cons_of_mem a hb))

end SameCode

namespace CodeLexer

/-! ## Code -/

/-- A character that starts neither a comment nor a literal. -/
def isCodeCharacter (c : Char) : Bool := c != '/' && c != '"'

/-- A text without comments and literals. -/
abbrev IsCode (t : Text) : Prop := MadeOf isCodeCharacter t

theorem isCode_of_notMem {t : Text} (hslash : '/' ∉ t) (hquote : '"' ∉ t) : IsCode t := by
  intro c hc
  have hne : c ≠ '/' := fun h => hslash (h ▸ hc)
  have hne' : c ≠ '"' := fun h => hquote (h ▸ hc)
  simp [isCodeCharacter, hne, hne']

/-- Code stays code. -/
theorem run_of_isCode {t : Text} (h : IsCode t) : (run .code t).1 = .code := by
  induction t with
  | nil => rfl
  | cons c t ih =>
    have hc := h c List.mem_cons_self
    simp only [isCodeCharacter, Bool.and_eq_true, bne_iff_ne] at hc
    rw [run, step, if_neg hc.1, if_neg hc.2]
    exact ih fun d hd => h d (List.mem_cons_of_mem c hd)

/-! ## Comments -/

/-- A line comment goes on to the end of its line. -/
theorem run_line {t : Text} (h : ∀ c ∈ t, isLineEnd c = false) :
    (run .lineComment t).1 = .lineComment := by
  induction t with
  | nil => rfl
  | cons c t ih =>
    rw [run, step, h c List.mem_cons_self, if_neg Bool.false_ne_true]
    exact ih fun d hd => h d (List.mem_cons_of_mem c hd)

/-- **A block comment goes on over a text that does not close it**, and
nothing of the text is left. Behind an asterisk the text must not start
with a slash either. -/
theorem run_block {t : Text} {s : State} (hs : s = .blockComment ∨ s = .asterisk)
    (hhead : s = .asterisk → t.head? ≠ some '/') (h : ¬ DocComment.closing <:+: t) :
    ∃ s', (s' = .blockComment ∨ s' = .asterisk) ∧ run s t = (s', []) := by
  induction t generalizing s with
  | nil => exact ⟨s, hs, rfl⟩
  | cons c t ih =>
    have htail : ¬ DocComment.closing <:+: t := fun hc => h (List.infix_cons hc)
    have hstep : step s c = (if c = '*' then .asterisk else .blockComment, []) := by
      rcases hs with rfl | rfl
      · rw [step]
        split
        · rfl
        · rfl
      · have hc : c ≠ '/' := fun hc => hhead rfl (by rw [hc]; rfl)
        rw [step, if_neg hc]
        split
        · rfl
        · rfl
    obtain ⟨next, hnext⟩ : ∃ s', (if c = '*' then State.asterisk else .blockComment) = s' :=
      ⟨_, rfl⟩
    -- an asterisk and a slash would close the comment
    have hslash : next = .asterisk → t.head? ≠ some '/' := by
      intro hstar hslash
      rw [← hnext] at hstar
      by_cases hc : c = '*'
      · obtain ⟨u, rfl⟩ := List.head?_eq_some_iff.1 hslash
        exact h ⟨[], u, by rw [hc]; rfl⟩
      · rw [if_neg hc] at hstar
        exact absurd hstar (by decide)
    have hopen : next = .blockComment ∨ next = .asterisk := by
      rw [← hnext]
      split
      · exact .inr rfl
      · exact .inl rfl
    obtain ⟨s', hs', hrun⟩ := ih hopen hslash htail
    refine ⟨s', hs', ?_⟩
    rw [run, hstep, hnext]
    simp only [hrun, List.append_nil]

/-! ## Literals -/

theorem step_digitChar {d : Nat} (h : d < 16) : step .literal d.digitChar = (.literal, []) := by
  have hall : ∀ d < 16, step .literal (Nat.digitChar d) = (.literal, []) := by decide
  exact hall d h

/-- An escaped unit does not leave the literal. -/
theorem run_unit {n : Nat} (h : n < 0x10000) :
    run .literal (StringLiteral.unit n) = (.literal, []) := by
  have hmod : ∀ m, m % 16 < 16 := fun m => Nat.mod_lt m (by omega)
  have hfirst : n / 16 / 16 / 16 < 16 := by omega
  rw [StringLiteral.unit, StringLiteral.hexadecimal_four h]
  change run .literal [_, _, _, _] = _
  simp only [run, step_digitChar hfirst, step_digitChar (hmod _), List.append_nil]

/-- **No character of a text leaves the literal.** -/
theorem run_character (c : Char) : run .literal (StringLiteral.character c) = (.literal, []) := by
  have hspelling := StringLiteral.spelling_character c
  generalize StringLiteral.character c = s at hspelling ⊢
  cases hspelling with
  | short => rfl
  | self h =>
    obtain ⟨hplain, hquote, hslash⟩ := StringLiteral.isSelf_iff.1 h
    have hbreak : ¬ (c = '\n' ∨ c = '\r') := by
      rintro (rfl | rfl)
      · exact absurd hplain (by decide)
      · exact absurd hplain (by decide)
    rw [run, step, if_neg hquote, if_neg hslash, if_neg hbreak]
    rfl
  | units =>
    refine StringLiteral.units_of_unit (p := fun t => run .literal t = (.literal, [])) ?_ run_unit c
    intro s t hs ht
    rw [run_append, hs, ht]
    rfl

theorem run_characters (t : Text) :
    run .literal (t.flatMap StringLiteral.character) = (.literal, []) := by
  induction t with
  | nil => rfl
  | cons c t ih =>
    rw [List.flatMap_cons, run_append, run_character]
    simp only [ih, List.append_nil]

/-- **Two quotes are left of a literal**, whatever text it stands for. -/
theorem run_literal (t : Text) : run .code t.literal = (.code, ['"', '"']) := by
  have hclosed : run .literal (t.flatMap StringLiteral.character ++ ['"']) = (.code, ['"']) := by
    rw [run_append, run_characters]
    rfl
  change ((run .literal _).1, ['"'] ++ (run .literal _).2) = _
  rw [hclosed]
  rfl

example : run .code "a\"\\\"/*\"/*\"*/b" = (.code, "a\"\"b".toList) := by decide

end CodeLexer

/-- **Any two literals are the same.** -/
theorem SameCode.literal (t u : Text) : SameCode .code t.literal u.literal .code :=
  ⟨_, run_literal t, run_literal u⟩

end HandlerGen
