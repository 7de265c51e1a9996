import HandlerGen.Proofs.MethodNames
import HandlerGen.Proofs.NameCharacters
import Mathlib.Computability.Language
/-!
# The patterns of names

The patterns of snake-case names, `[a-z][a-z0-9]*(_[a-z][a-z0-9]*)*`, and
of identifiers, `[A-Za-z_$][A-Za-z0-9_$]*`, as languages. The grammars
accept just the texts of these languages (`Pattern.mem_snakeCase_iff`,
`Pattern.mem_identifier_iff`). A check does not look at a line feed at the
end, so **what passes it is a text of the language or such a text with a
line feed behind it** (`Text.readsAsSnakeCase_iff`,
`Text.readsAsIdentifier_iff`).
-/

namespace HandlerGen

open scoped Computability

namespace Pattern

/-- One character of a range. -/
def range (first last : Char) : Language Char := {t | ∃ c, t = [c] ∧ first ≤ c ∧ c ≤ last}

/-- A character by itself. -/
def single (c : Char) : Language Char := {[c]}

/-- A word of a snake-case name, `[a-z][a-z0-9]*`. -/
def word : Language Char := range 'a' 'z' * (range 'a' 'z' + range '0' '9')∗

/-- Snake-case names, `[a-z][a-z0-9]*(_[a-z][a-z0-9]*)*`. -/
def snakeCase : Language Char := word * (single '_' * word)∗

/-- Identifiers, `[A-Za-z_$][A-Za-z0-9_$]*`. -/
def identifier : Language Char :=
  (range 'A' 'Z' + range 'a' 'z' + single '_' + single '$')
    * (range 'A' 'Z' + range 'a' 'z' + range '0' '9' + single '_' + single '$')∗

/-! ## Classes of characters -/

/-- A language of the characters of a class. -/
def IsClass (l : Language Char) (p : Char → Bool) : Prop := ∀ t, t ∈ l ↔ ∃ c, t = [c] ∧ p c = true

variable {l m : Language Char} {p q : Char → Bool} {t : Text}

theorem isClass_range (first last : Char) :
    IsClass (range first last) fun c => first ≤ c && c ≤ last := by
  intro t
  simp only [range, Bool.and_eq_true, decide_eq_true_eq]
  exact Iff.rfl

theorem isClass_single (d : Char) : IsClass (single d) (· == d) := by
  intro t
  constructor
  · rintro rfl
    exact ⟨d, rfl, beq_self_eq_true d⟩
  · rintro ⟨c, rfl, hc⟩
    rw [beq_iff_eq] at hc
    exact congrArg (fun c => [c]) hc

theorem IsClass.add (hl : IsClass l p) (hm : IsClass m q) :
    IsClass (l + m) fun c => p c || q c := by
  intro t
  rw [Language.mem_add, hl, hm]
  constructor
  · rintro (⟨c, rfl, hc⟩ | ⟨c, rfl, hc⟩)
    · exact ⟨c, rfl, Bool.or_eq_true_iff.2 (.inl hc)⟩
    · exact ⟨c, rfl, Bool.or_eq_true_iff.2 (.inr hc)⟩
  · rintro ⟨c, rfl, hc⟩
    exact (Bool.or_eq_true_iff.1 hc).imp (fun hc => ⟨c, rfl, hc⟩) fun hc => ⟨c, rfl, hc⟩

theorem IsClass.congr (hl : IsClass l p) (h : ∀ c, p c = q c) : IsClass l q :=
  funext h ▸ hl

/-- Any number of characters of a class. -/
theorem IsClass.mem_kstar_iff (hl : IsClass l p) : t ∈ l∗ ↔ t.all p = true := by
  rw [Language.mem_kstar, List.all_eq_true]
  constructor
  · rintro ⟨ts, rfl, hts⟩ c hc
    obtain ⟨u, hu, hc⟩ := List.mem_flatten.1 hc
    obtain ⟨d, rfl, hd⟩ := (hl u).1 (hts u hu)
    exact List.mem_singleton.1 hc ▸ hd
  · intro h
    refine ⟨t.map fun c => [c], ?_, fun u hu => ?_⟩
    · rw [← List.flatMap_def, List.flatMap_singleton']
    · obtain ⟨c, hc, rfl⟩ := List.mem_map.1 hu
      exact (hl _).2 ⟨c, rfl, h c hc⟩

/-- A character of a class in front of a text. -/
theorem IsClass.cons_mem_mul_iff (hl : IsClass l p) {c : Char} :
    c :: t ∈ l * m ↔ p c = true ∧ t ∈ m := by
  rw [Language.mem_mul]
  constructor
  · rintro ⟨u, hu, v, hv, heq⟩
    obtain ⟨d, rfl, hd⟩ := (hl u).1 hu
    obtain ⟨rfl, rfl⟩ := List.cons.inj heq
    exact ⟨hd, hv⟩
  · rintro ⟨hc, ht⟩
    exact ⟨[c], (hl _).2 ⟨c, rfl, hc⟩, t, ht, rfl⟩

theorem IsClass.nil_notMem_mul (hl : IsClass l p) : [] ∉ l * m := by
  rintro ⟨u, hu, v, -, heq⟩
  obtain ⟨d, rfl, -⟩ := (hl u).1 hu
  exact absurd heq (List.cons_ne_nil d v)

/-! ## The grammars -/

theorem mem_word_iff : t ∈ word ↔ t.isSnakeWord = true := by
  have hsmall := isClass_range 'a' 'z'
  have hpart := hsmall.add (isClass_range '0' '9')
  cases t with
  | nil => exact iff_of_false hsmall.nil_notMem_mul Bool.false_ne_true
  | cons c t =>
    rw [word, hsmall.cons_mem_mul_iff, hpart.mem_kstar_iff]
    exact Bool.and_eq_true_iff.symm

/-- **The grammar of identifiers is their pattern.** -/
theorem mem_identifier_iff : t ∈ identifier ↔ t.isIdentifier = true := by
  have hstart : IsClass (range 'A' 'Z' + range 'a' 'z' + single '_' + single '$')
      Text.isIdentifierStart := by
    refine ((((isClass_range 'A' 'Z').add (isClass_range 'a' 'z')).add
      (isClass_single '_')).add (isClass_single '$')).congr fun c => ?_
    rw [Text.isIdentifierStart, Bool.or_comm (decide ('A' ≤ c) && _)]
  have hpart : IsClass (range 'A' 'Z' + range 'a' 'z' + range '0' '9' + single '_' + single '$')
      Text.isIdentifierPart := by
    refine (((((isClass_range 'A' 'Z').add (isClass_range 'a' 'z')).add
      (isClass_range '0' '9')).add (isClass_single '_')).add (isClass_single '$')).congr fun c => ?_
    rw [Text.isIdentifierPart, Text.isIdentifierStart, Bool.or_comm (decide ('A' ≤ c) && _),
      Bool.or_right_comm _ (decide ('0' ≤ c) && _), Bool.or_right_comm _ (decide ('0' ≤ c) && _)]
  cases t with
  | nil => exact iff_of_false hstart.nil_notMem_mul Bool.false_ne_true
  | cons c t =>
    rw [identifier, hstart.cons_mem_mul_iff, hpart.mem_kstar_iff, Text.isIdentifier,
      Bool.and_eq_true]

/-- The characters of a word are small letters and digits. -/
theorem part_of_mem_of_isSnakeWord {w : Text} (h : w.isSnakeWord = true) {c : Char} (hc : c ∈ w) :
    (('a' ≤ c && c ≤ 'z') || ('0' ≤ c && c ≤ '9')) = true := by
  cases w with
  | nil => exact absurd hc List.not_mem_nil
  | cons d w =>
    obtain ⟨hd, hw⟩ := Bool.and_eq_true_iff.1 h
    rcases List.mem_cons.1 hc with rfl | hc
    · rw [hd, Bool.true_or]
    · exact List.all_eq_true.1 hw c hc

/-- So a word has no mark in it. -/
theorem mark_notMem_of_isSnakeWord {w : Text} (h : w.isSnakeWord = true) : '_' ∉ w := fun hmark =>
  absurd (part_of_mem_of_isSnakeWord h hmark) (by decide)

/-- Any number of words with a mark before each of them. -/
theorem mem_kstar_marked_iff :
    t ∈ (single '_' * word)∗ ↔
      ∃ ws : List Text, (∀ w ∈ ws, w.isSnakeWord = true) ∧ t = ws.flatMap fun w => '_' :: w := by
  have hmarked : ∀ {u : Text}, u ∈ single '_' * word ↔
      ∃ w : Text, w.isSnakeWord = true ∧ u = '_' :: w := by
    intro u
    cases u with
    | nil => exact iff_of_false (isClass_single '_').nil_notMem_mul (by simp)
    | cons c u =>
      rw [(isClass_single '_').cons_mem_mul_iff, mem_word_iff, beq_iff_eq]
      constructor
      · rintro ⟨rfl, hu⟩
        exact ⟨u, hu, rfl⟩
      · rintro ⟨w, hw, heq⟩
        obtain ⟨rfl, rfl⟩ := List.cons.inj heq
        exact ⟨rfl, hw⟩
  rw [Language.mem_kstar]
  constructor
  · rintro ⟨us, rfl, hus⟩
    -- the words are the pieces less their marks
    have htail : ∀ u ∈ us, Text.isSnakeWord u.tail = true ∧ u = '_' :: u.tail := by
      intro u hu
      obtain ⟨w, hw, rfl⟩ := hmarked.1 (hus u hu)
      exact ⟨hw, rfl⟩
    refine ⟨us.map List.tail, fun w hw => ?_, ?_⟩
    · obtain ⟨u, hu, rfl⟩ := List.mem_map.1 hw
      exact (htail u hu).1
    · have hsame : us.flatMap (fun u => '_' :: u.tail) = us.flatMap fun u => u :=
        List.flatMap_congr fun u hu => (htail u hu).2.symm
      rw [List.flatMap_map, hsame, List.flatMap_id']
  · rintro ⟨ws, hws, rfl⟩
    refine ⟨ws.map fun w => '_' :: w, List.flatMap_def, fun u hu => ?_⟩
    obtain ⟨w, hw, rfl⟩ := List.mem_map.1 hu
    exact hmarked.2 ⟨w, hws w hw, rfl⟩

/-- A word and others with a mark before each of them are words with marks
between them. -/
theorem append_flatMap_eq_intercalate (w : Text) (ws : List Text) :
    w ++ ws.flatMap (fun w => '_' :: w) = ['_'].intercalate (w :: ws) :=
  (Text.intercalate_cons ['_'] w ws).symm

/-- **The grammar of snake-case names is their pattern.** -/
theorem mem_snakeCase_iff : t ∈ snakeCase ↔ t.isSnakeCase = true := by
  rw [snakeCase, Language.mem_mul, Text.isSnakeCase, List.all_eq_true]
  constructor
  · rintro ⟨w, hw, rest, hrest, rfl⟩
    obtain ⟨ws, hws, rfl⟩ := mem_kstar_marked_iff.1 hrest
    have hwords : ∀ v ∈ w :: ws, Text.isSnakeWord v = true :=
      List.forall_mem_cons.2 ⟨mem_word_iff.1 hw, hws⟩
    have hmark : ∀ v ∈ w :: ws, '_' ∉ v := fun v hv => mark_notMem_of_isSnakeWord (hwords v hv)
    rw [append_flatMap_eq_intercalate, List.splitOn_intercalate '_' hmark (List.cons_ne_nil w ws)]
    exact hwords
  · intro h
    obtain ⟨w, ws, hwords⟩ := List.exists_cons_of_ne_nil (List.splitOn_ne_nil '_' t)
    rw [hwords] at h
    refine ⟨w, mem_word_iff.2 (h w List.mem_cons_self), ws.flatMap fun w => '_' :: w,
      mem_kstar_marked_iff.2 ⟨ws, fun v hv => h v (List.mem_cons_of_mem w hv), rfl⟩, ?_⟩
    rw [append_flatMap_eq_intercalate, ← hwords, List.intercalate_splitOn]

end Pattern

namespace Text

/-! ## What passes a check -/

theorem dropFinalBreak_append_break (t : Text) : (t ++ ['\n'] : Text).dropFinalBreak = t := by
  induction t with
  | nil => rfl
  | cons c t ih =>
    have hne : t ++ ['\n'] ≠ [] := by simp
    rw [List.cons_append, dropFinalBreak, ih]
    exact fun _ h => hne h

variable {p : Text → Bool} {t : Text}

/-- **What passes a check has the property or has it without the line feed
at its end**, where line feeds are not in what has the property. -/
theorem dropFinalBreak_passes_iff (hp : ∀ t, p t = true → '\n' ∉ t) :
    p t.dropFinalBreak = true ↔ p t = true ∨ ∃ n, p n = true ∧ t = n ++ ['\n'] := by
  constructor
  · intro h
    rcases eq_dropFinalBreak_or t with heq | heq
    · exact .inl (heq ▸ h)
    · exact .inr ⟨_, h, heq⟩
  · rintro (h | ⟨n, hn, rfl⟩)
    · rwa [dropFinalBreak_of_notMem (hp t h)]
    · rwa [dropFinalBreak_append_break]

/-- What passes has the property itself just if no line feed is in it. -/
theorem passes_iff_break_notMem (hp : ∀ t, p t = true → '\n' ∉ t)
    (h : p t.dropFinalBreak = true) : p t = true ↔ '\n' ∉ t := by
  refine ⟨hp t, fun hbreak => ?_⟩
  rwa [dropFinalBreak_of_notMem hbreak] at h

theorem break_notMem_of_isSnakeCase (h : t.isSnakeCase = true) : '\n' ∉ t := fun hc =>
  absurd (isIdentifierPart_of_isSnakeCase h hc) (by decide)

theorem break_notMem_of_isIdentifier (h : t.isIdentifier = true) : '\n' ∉ t := fun hc =>
  absurd (isIdentifierPart_of_isIdentifier h hc) (by decide)

/-- **What passes for a snake-case name** is one, or one with a line feed
behind it. -/
theorem readsAsSnakeCase_iff : t.readsAsSnakeCase = true ↔
    t ∈ Pattern.snakeCase ∨ ∃ n ∈ Pattern.snakeCase, t = n ++ ['\n'] := by
  simp only [Pattern.mem_snakeCase_iff]
  exact dropFinalBreak_passes_iff fun t => break_notMem_of_isSnakeCase

/-- **What passes for an identifier** is one, or one with a line feed
behind it. -/
theorem readsAsIdentifier_iff : t.readsAsIdentifier = true ↔
    t ∈ Pattern.identifier ∨ ∃ n ∈ Pattern.identifier, t = n ++ ['\n'] := by
  simp only [Pattern.mem_identifier_iff]
  exact dropFinalBreak_passes_iff fun t => break_notMem_of_isIdentifier

/-- What passes is of the pattern just if it does not break the line. -/
theorem mem_snakeCase_iff_of_reads (h : t.readsAsSnakeCase = true) :
    t ∈ Pattern.snakeCase ↔ '\n' ∉ t := by
  rw [Pattern.mem_snakeCase_iff]
  exact passes_iff_break_notMem (fun _ => break_notMem_of_isSnakeCase) h

theorem mem_identifier_iff_of_reads (h : t.readsAsIdentifier = true) :
    t ∈ Pattern.identifier ↔ '\n' ∉ t := by
  rw [Pattern.mem_identifier_iff]
  exact passes_iff_break_notMem (fun _ => break_notMem_of_isIdentifier) h

end Text

end HandlerGen
