import HandlerGen.Identifier
import HandlerGen.Naming
import HandlerGen.Proofs.CommentLines
import HandlerGen.Text.Blank
/-!
# The characters of generated names

Names that passed their checks are made of few characters: letters,
digits, the underscore, the dollar sign, and the line feed that a check
lets pass at the end (`Text.IsName`). So a handler's name shows
(`Text.isBlank_of_readsAsSnakeCase`). Capitalising keeps to these
characters, and the names of methods and types are made of them too
(`Naming.isName_methodName`, `Naming.isName_paramsTypeName`).
-/

namespace HandlerGen

namespace Text

/-- Texts with a mark between any two have the mark before each but the
first. -/
theorem intercalate_cons (s t : Text) (ts : List Text) :
    s.intercalate (t :: ts) = t ++ ts.flatMap fun u => s ++ u := by
  induction ts generalizing t with
  | nil => rw [List.intercalate_singleton, List.flatMap_nil, List.append_nil]
  | cons u us ih =>
    rw [List.intercalate_cons_cons, ih, List.flatMap_cons, List.append_assoc, List.append_assoc]

/-- A character of texts with a mark between any two stands in the mark or
in one of the texts. -/
theorem mem_of_mem_intercalate {c : Char} {s : Text} {ts : List Text}
    (h : c ∈ s.intercalate ts) : c ∈ s ∨ ∃ t ∈ ts, c ∈ t := by
  cases ts with
  | nil => exact absurd h List.not_mem_nil
  | cons t ts =>
    rw [intercalate_cons, List.mem_append, List.mem_flatMap] at h
    rcases h with h | ⟨u, hu, h⟩
    · exact .inr ⟨t, List.mem_cons_self, h⟩
    · rcases List.mem_append.1 h with h | h
      · exact .inl h
      · exact .inr ⟨u, List.mem_cons_of_mem t hu, h⟩

/-- A character of one of the texts stands there. -/
theorem mem_intercalate_of_mem {c : Char} {s t : Text} {ts : List Text} (ht : t ∈ ts)
    (hc : c ∈ t) : c ∈ s.intercalate ts := by
  cases ts with
  | nil => exact absurd ht List.not_mem_nil
  | cons u us =>
    rw [intercalate_cons, List.mem_append, List.mem_flatMap]
    rcases List.mem_cons.1 ht with rfl | ht
    · exact .inl hc
    · exact .inr ⟨t, ht, List.mem_append_right s hc⟩

end Text

/-- A text that is made of the characters of a class. -/
def MadeOf (p : Char → Bool) (t : Text) : Prop := ∀ c ∈ t, p c = true

namespace MadeOf

variable {p : Char → Bool} {s t : Text}

theorem of_infix (ht : MadeOf p t) (h : s <:+: t) : MadeOf p s := fun c hc => ht c (h.subset hc)

theorem append (hs : MadeOf p s) (ht : MadeOf p t) : MadeOf p (s ++ t : Text) := by
  intro c hc
  rcases List.mem_append.1 hc with hc | hc
  · exact hs c hc
  · exact ht c hc

/-- Texts with a mark between any two have the characters of the texts
and of the mark. -/
theorem intercalate {ts : List Text} (hs : MadeOf p s) (hts : ∀ t ∈ ts, MadeOf p t) :
    MadeOf p (s.intercalate ts) := by
  intro c hc
  rcases Text.mem_of_mem_intercalate hc with hc | ⟨t, ht, hc⟩
  · exact hs c hc
  · exact hts t ht c hc

/-- The text may be spelt as a literal. -/
theorem ofList (h : s.all p = true) : MadeOf p (String.ofList s) := by
  rw [String.toList_ofList]
  exact List.all_eq_true.1 h

/-- A character that is not of the class is not in the text. -/
theorem notMem (ht : MadeOf p t) {c : Char} (hc : p c = false) : c ∉ t :=
  fun h => absurd (ht c h) (by rw [hc]; exact Bool.false_ne_true)

end MadeOf

namespace Text

/-! ## Names -/

/-- A character that a checked name may have. -/
def isNameCharacter (c : Char) : Bool := isIdentifierPart c || c == '\n'

/-- A text that is made of the characters of checked names. -/
abbrev IsName (t : Text) : Prop := MadeOf isNameCharacter t

/-- A text is what a check looks at, with a line feed behind it or not. -/
theorem eq_dropFinalBreak_or (t : Text) :
    t = t.dropFinalBreak ∨ t = t.dropFinalBreak ++ ['\n'] := by
  fun_induction dropFinalBreak t with
  | case1 => exact .inl rfl
  | case2 => exact .inr rfl
  | case3 c t _ ih => exact ih.imp (congrArg (c :: ·)) (congrArg (c :: ·))

/-- What a check leaves out is a line feed. -/
theorem mem_dropFinalBreak {c : Char} {t : Text} (h : c ∈ t) : c ∈ t.dropFinalBreak ∨ c = '\n' := by
  rcases eq_dropFinalBreak_or t with heq | heq
  · rw [heq] at h
    exact .inl h
  · rw [heq, List.mem_append] at h
    exact h.imp_right List.mem_singleton.1

/-- What a check leaves of a text stands in it. -/
theorem mem_of_mem_dropFinalBreak {c : Char} {t : Text} (h : c ∈ t.dropFinalBreak) : c ∈ t := by
  rcases eq_dropFinalBreak_or t with heq | heq
  · rwa [heq]
  · rw [heq]
    exact List.mem_append_left _ h

/-- Nothing is left out of a text without line feeds. -/
theorem dropFinalBreak_of_notMem {t : Text} (ht : '\n' ∉ t) : t.dropFinalBreak = t := by
  rcases eq_dropFinalBreak_or t with heq | heq
  · exact heq.symm
  · rw [heq] at ht
    exact absurd (List.mem_append_right _ (List.mem_singleton_self '\n')) ht

/-- A text is made of the characters of names if it is so without the
final line feed. -/
theorem isName_of_dropFinalBreak {t : Text}
    (h : ∀ c ∈ t.dropFinalBreak, isIdentifierPart c = true) : t.IsName := by
  intro c hc
  rcases mem_dropFinalBreak hc with hc | rfl
  · rw [isNameCharacter, h c hc, Bool.true_or]
  · decide

/-- The characters of an identifier are those that it goes on with. -/
theorem isIdentifierPart_of_isIdentifier {t : Text} (h : t.isIdentifier = true) {c : Char}
    (hc : c ∈ t) : isIdentifierPart c = true := by
  cases t with
  | nil => exact absurd hc List.not_mem_nil
  | cons d t =>
    rw [isIdentifier, Bool.and_eq_true, List.all_eq_true] at h
    rcases List.mem_cons.1 hc with rfl | hc
    · rw [isIdentifierPart, h.1, Bool.true_or]
    · exact h.2 c hc

/-- An identifier is made of the characters of names. -/
theorem isName_of_readsAsIdentifier {t : Text} (h : t.readsAsIdentifier = true) : t.IsName :=
  isName_of_dropFinalBreak fun _ hc => isIdentifierPart_of_isIdentifier h hc

/-- A word of a snake-case name is made of the characters of
identifiers. -/
theorem isIdentifierPart_of_isSnakeWord {w : Text} (h : w.isSnakeWord = true) {c : Char}
    (hc : c ∈ w) : isIdentifierPart c = true := by
  cases w with
  | nil => exact absurd hc List.not_mem_nil
  | cons d w =>
    simp only [isSnakeWord, Bool.and_eq_true, List.all_eq_true, Bool.or_eq_true] at h
    simp only [isIdentifierPart, isIdentifierStart, Bool.or_eq_true, Bool.and_eq_true]
    rcases List.mem_cons.1 hc with rfl | hc
    · exact .inl (.inl (.inl (.inl h.1)))
    · exact (h.2 c hc).imp (fun h => .inl (.inl (.inl h))) id

/-- A character of a text stands in a piece of it, unless the text is cut
there. -/
theorem mem_splitOn_of_mem {x c : Char} {t : Text} (h : c ∈ t) :
    c = x ∨ ∃ p ∈ t.splitOn x, c ∈ p := by
  induction t with
  | nil => exact absurd h List.not_mem_nil
  | cons d t ih =>
    obtain ⟨q, qs, hq⟩ := List.exists_cons_of_ne_nil (List.splitOn_ne_nil x t)
    rw [hq] at ih
    rw [List.splitOn_cons_eq_if_modifyHead, hq]
    by_cases hd : d = x
    · rw [if_pos (beq_iff_eq.2 hd)]
      rcases List.mem_cons.1 h with rfl | h
      · exact .inl hd
      · exact (ih h).imp_right fun ⟨p, hp, hc⟩ => ⟨p, List.mem_cons_of_mem [] hp, hc⟩
    · rw [if_neg (by rwa [beq_iff_eq])]
      rcases List.mem_cons.1 h with rfl | h
      · exact .inr ⟨c :: q, List.mem_cons_self, List.mem_cons_self⟩
      · refine (ih h).imp_right fun ⟨p, hp, hc⟩ => ?_
        rcases List.mem_cons.1 hp with rfl | hp
        · exact ⟨d :: p, List.mem_cons_self, List.mem_cons_of_mem d hc⟩
        · exact ⟨p, List.mem_cons_of_mem _ hp, hc⟩

/-- A snake-case name is made of the characters of identifiers. -/
theorem isIdentifierPart_of_isSnakeCase {t : Text} (h : t.isSnakeCase = true) {c : Char}
    (hc : c ∈ t) : isIdentifierPart c = true := by
  rcases mem_splitOn_of_mem (x := '_') hc with rfl | ⟨w, hw, hc⟩
  · decide
  · exact isIdentifierPart_of_isSnakeWord (List.all_eq_true.1 h w hw) hc

theorem isName_of_isSnakeCase {t : Text} (h : t.isSnakeCase = true) : t.IsName := by
  intro c hc
  rw [isNameCharacter, isIdentifierPart_of_isSnakeCase h hc, Bool.true_or]

theorem isName_of_readsAsSnakeCase {t : Text} (h : t.readsAsSnakeCase = true) : t.IsName :=
  isName_of_dropFinalBreak fun _ hc => isIdentifierPart_of_isSnakeCase h hc

/-- A property of all characters in ASCII is shown for each of their
codes. -/
theorem of_ascii {p : Char → Prop} (hp : ∀ n < 0x80, p (Char.ofNat n)) {c : Char}
    (hc : c.toNat < 0x80) : p c := by
  have hcode := hp c.toNat hc
  rwa [Char.ofNat_toNat] at hcode

/-- The characters of names are in ASCII. -/
theorem toNat_lt_of_isNameCharacter {c : Char} (h : isNameCharacter c = true) :
    c.toNat < 0x80 := by
  have hle : ∀ d : Char, d.toNat < 0x80 → c ≤ d → c.toNat < 0x80 :=
    fun d hd hc => Nat.lt_of_le_of_lt hc hd
  simp only [isNameCharacter, isIdentifierPart, isIdentifierStart, Bool.or_eq_true,
    Bool.and_eq_true, decide_eq_true_eq, beq_iff_eq] at h
  rcases h with ((((h | h) | rfl) | rfl) | h) | rfl
  · exact hle 'z' (by decide) h.2
  · exact hle 'Z' (by decide) h.2
  · decide
  · decide
  · exact hle '9' (by decide) h.2
  · decide

/-- The characters of identifiers show. -/
theorem not_isBlank_of_isIdentifierPart {c : Char} (h : isIdentifierPart c = true) :
    HandlerGen.isBlank c = false := by
  have hname : isNameCharacter c = true := by rw [isNameCharacter, h, Bool.true_or]
  exact of_ascii (p := fun c => isIdentifierPart c = true → HandlerGen.isBlank c = false)
    (by decide +kernel) (toNat_lt_of_isNameCharacter hname) h

/-- **A snake-case name shows.** -/
theorem isBlank_of_readsAsSnakeCase {name : Text} (h : name.readsAsSnakeCase = true) :
    name.isBlank = false := by
  rw [readsAsSnakeCase] at h
  obtain ⟨c, hc⟩ : ∃ c, c ∈ name.dropFinalBreak := by
    refine List.exists_mem_of_ne_nil _ fun hnil => ?_
    rw [hnil] at h
    exact absurd h (by decide)
  have hpart : isIdentifierPart c = true := isIdentifierPart_of_isSnakeCase h hc
  rw [isBlank, List.all_eq_false]
  exact ⟨c, mem_of_mem_dropFinalBreak hc, by simp [not_isBlank_of_isIdentifierPart hpart]⟩

/-- Capitals of the characters of names are such characters. -/
theorem isName_upperCase {c : Char} (h : isNameCharacter c = true) : IsName (upperCase c) := by
  have hall : (upperCase c).all isNameCharacter = true :=
    of_ascii (p := fun c => isNameCharacter c = true → (upperCase c).all isNameCharacter = true)
      (by decide +kernel) (toNat_lt_of_isNameCharacter h) h
  exact List.all_eq_true.1 hall

end Text

namespace Naming

/-- Words that are put together are made of the characters of a class, if
the words are and the class has the capitals of its characters. -/
theorem madeOf_pascalCase {p : Char → Bool} {name : Text}
    (hcapital : ∀ c, p c = true → MadeOf p (upperCase c))
    (hwords : ∀ w ∈ name.splitOn '_', MadeOf p w) : MadeOf p (pascalCase name) := by
  intro c hc
  obtain ⟨w, hw, hc⟩ := List.mem_flatMap.1 hc
  have hword : MadeOf p w := hwords w hw
  cases w with
  | nil => exact absurd hc List.not_mem_nil
  | cons d w =>
    rcases List.mem_append.1 hc with hc | hc
    · exact hcapital d (hword d List.mem_cons_self) c hc
    · exact hword c (List.mem_cons_of_mem d hc)

/-- The words of a name, put together, are made of the characters of
names. -/
theorem isName_pascalCase {name : Text} (h : name.IsName) : (pascalCase name).IsName :=
  madeOf_pascalCase (fun _ hc => Text.isName_upperCase hc)
    fun _ hw => h.of_infix (Text.infix_of_mem_splitOn hw)

/-- **The name of a method is made of the characters of names.** -/
theorem isName_methodName {name : Text} (h : name.IsName) : (methodName name).IsName :=
  MadeOf.append (.ofList (by decide)) (isName_pascalCase h)

/-- **The name of a type is made of the characters of names.** -/
theorem isName_paramsTypeName {name : Text} (h : name.IsName) : (paramsTypeName name).IsName :=
  (isName_pascalCase h).append (.ofList (by decide))

end Naming

end HandlerGen
