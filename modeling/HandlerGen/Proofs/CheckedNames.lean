import HandlerGen.Proofs.Acceptance
import HandlerGen.Proofs.NamePatterns
/-!
# Checked names

What the check on a handler's name is good for. The names of the method
and of the type of a snake-case name are plain: identifiers of letters and
digits (`Naming.isPlainName_methodName_iff`). But a name may end in a line
feed, and capitalising keeps it. So **a handler's name is snake-case, and
the names made of it are plain, just if no line feed is in it**
(`Descriptor.name_mem_snakeCase_iff`).
-/

namespace HandlerGen

/-- An identifier of letters and digits in ASCII. -/
structure IsPlainName (t : Text) : Prop where
  identifier : t ∈ Pattern.identifier
  alphanumeric : MadeOf Char.isAlphanum t

namespace Text

/-- Letters and digits are capitals, small letters and digits. -/
theorem isAlphanum_iff {c : Char} : c.isAlphanum = true ↔
    ('A' ≤ c ∧ c ≤ 'Z') ∨ ('a' ≤ c ∧ c ≤ 'z') ∨ ('0' ≤ c ∧ c ≤ '9') := by
  have hcapital : c.isUpper = true ↔ 'A' ≤ c ∧ c ≤ 'Z' := decide_eq_true_iff
  have hsmall : c.isLower = true ↔ 'a' ≤ c ∧ c ≤ 'z' :=
    Bool.and_eq_true_iff.trans (and_congr decide_eq_true_iff decide_eq_true_iff)
  have hdigit : c.isDigit = true ↔ '0' ≤ c ∧ c ≤ '9' :=
    Bool.and_eq_true_iff.trans (and_congr decide_eq_true_iff decide_eq_true_iff)
  have hletter : c.isAlpha = true ↔ c.isUpper = true ∨ c.isLower = true := Bool.or_eq_true_iff
  have heither : c.isAlphanum = true ↔ c.isAlpha = true ∨ c.isDigit = true := Bool.or_eq_true_iff
  rw [heither, hletter, hcapital, hsmall, hdigit, or_assoc]

/-- Letters and digits are characters of identifiers. -/
theorem isIdentifierPart_of_isAlphanum {c : Char} (h : c.isAlphanum = true) :
    isIdentifierPart c = true := by
  simp only [isIdentifierPart, isIdentifierStart, Bool.or_eq_true, Bool.and_eq_true,
    decide_eq_true_eq]
  rcases isAlphanum_iff.1 h with h | h | h
  · exact .inl (.inl (.inl (.inr h)))
  · exact .inl (.inl (.inl (.inl h)))
  · exact .inr h

/-- The characters of a word are letters and digits. -/
theorem isAlphanum_of_isSnakeWord {w : Text} (h : w.isSnakeWord = true) :
    MadeOf Char.isAlphanum w := by
  intro c hc
  have hpart := Pattern.part_of_mem_of_isSnakeWord h hc
  simp only [Bool.or_eq_true, Bool.and_eq_true, decide_eq_true_eq] at hpart
  exact isAlphanum_iff.2 (.inr hpart)

/-- Letters and digits have letters and digits as capitals. -/
theorem isAlphanum_upperCase {c : Char} (h : c.isAlphanum = true) :
    MadeOf Char.isAlphanum (upperCase c) := by
  have hname : isNameCharacter c = true := by
    rw [isNameCharacter, isIdentifierPart_of_isAlphanum h, Bool.true_or]
  have hall : (upperCase c).all Char.isAlphanum = true :=
    of_ascii (p := fun c => c.isAlphanum = true → (upperCase c).all Char.isAlphanum = true)
      (by decide +kernel) (toNat_lt_of_isNameCharacter hname) h
  exact List.all_eq_true.1 hall

/-- The capital of a small letter is an identifier. -/
theorem isIdentifier_upperCase {c : Char} (h : 'a' ≤ c ∧ c ≤ 'z') :
    isIdentifier (upperCase c) = true := by
  have hascii : c.toNat < 0x80 := Nat.lt_of_le_of_lt h.2 (by decide)
  exact of_ascii (p := fun c => 'a' ≤ c ∧ c ≤ 'z' → isIdentifier (upperCase c) = true)
    (by decide +kernel) hascii h

end Text

namespace IsPlainName

variable {s t : Text}

/-- A plain name goes on with letters and digits. -/
theorem append (hs : IsPlainName s) (ht : MadeOf Char.isAlphanum t) : IsPlainName (s ++ t) := by
  refine ⟨?_, hs.alphanumeric.append ht⟩
  have hstart : s.isIdentifier = true := Pattern.mem_identifier_iff.1 hs.identifier
  rw [Pattern.mem_identifier_iff]
  cases s with
  | nil => exact absurd hstart Bool.false_ne_true
  | cons c s =>
    rw [Text.isIdentifier, Bool.and_eq_true] at hstart
    rw [List.cons_append, Text.isIdentifier, hstart.1, List.all_append, hstart.2, Bool.true_and,
      Bool.true_and, List.all_eq_true]
    exact fun d hd => Text.isIdentifierPart_of_isAlphanum (ht d hd)

theorem break_notMem (h : IsPlainName t) : '\n' ∉ t := h.alphanumeric.notMem rfl

end IsPlainName

namespace Naming

variable {name : Text}

/-- A line feed stays where words are put together. -/
theorem break_mem_pascalCase (h : '\n' ∈ name) : '\n' ∈ pascalCase name := by
  have hcapital : upperCase '\n' = ['\n'] := by decide +kernel
  rcases Text.mem_splitOn_of_mem (x := '_') h with hmark | ⟨w, hw, hbreak⟩
  · exact absurd hmark (by decide)
  · refine List.mem_flatMap.2 ⟨w, hw, ?_⟩
    cases w with
    | nil => exact absurd hbreak List.not_mem_nil
    | cons c w =>
      rw [capitalised, List.mem_append]
      rcases List.mem_cons.1 hbreak with rfl | hbreak
      · exact .inl (hcapital ▸ List.mem_singleton_self '\n')
      · exact .inr hbreak

/-- Snake-case names are put together to letters and digits. -/
theorem isAlphanum_pascalCase (h : name.isSnakeCase = true) :
    MadeOf Char.isAlphanum (pascalCase name) :=
  madeOf_pascalCase (fun _ hc => Text.isAlphanum_upperCase hc)
    fun w hw => Text.isAlphanum_of_isSnakeWord (List.all_eq_true.1 h w hw)

/-- Snake-case names are put together to plain names, which start with a
capital. -/
theorem isPlainName_pascalCase (h : name.isSnakeCase = true) : IsPlainName (pascalCase name) := by
  have halphanumeric : MadeOf Char.isAlphanum (pascalCase name) := isAlphanum_pascalCase h
  have hwords : ∀ w ∈ name.splitOn '_', Text.isSnakeWord w = true := List.all_eq_true.1 h
  obtain ⟨w, ws, hsplit⟩ := List.exists_cons_of_ne_nil (List.splitOn_ne_nil '_' name)
  have hfirst : Text.isSnakeWord w = true := hwords w (hsplit ▸ List.mem_cons_self)
  rw [pascalCase, hsplit, List.flatMap_cons] at halphanumeric ⊢
  cases w with
  | nil => exact absurd hfirst Bool.false_ne_true
  | cons c w =>
    have hsmall : 'a' ≤ c ∧ c ≤ 'z' := by
      rw [Text.isSnakeWord, Bool.and_eq_true, Bool.and_eq_true] at hfirst
      exact ⟨of_decide_eq_true hfirst.1.1, of_decide_eq_true hfirst.1.2⟩
    -- the name starts with the capital and goes on with letters and digits
    have hcapital : IsPlainName (upperCase c) :=
      ⟨Pattern.mem_identifier_iff.2 (Text.isIdentifier_upperCase hsmall),
        fun d hd => halphanumeric d (List.mem_append_left _ (List.mem_append_left w hd))⟩
    rw [capitalised, List.append_assoc] at halphanumeric ⊢
    exact hcapital.append fun d hd => halphanumeric d (List.mem_append_right _ hd)

/-- **The method of a handler has a plain name** just if no line feed is in
the name of the handler. -/
theorem isPlainName_methodName_iff (h : name.readsAsSnakeCase = true) :
    IsPlainName (methodName name) ↔ '\n' ∉ name := by
  constructor
  · exact fun hplain hbreak =>
      hplain.break_notMem (List.mem_append_right _ (break_mem_pascalCase hbreak))
  · intro hbreak
    have hsnake := Pattern.mem_snakeCase_iff.1 ((Text.mem_snakeCase_iff_of_reads h).2 hbreak)
    have hhandle : IsPlainName "handle" :=
      ⟨Pattern.mem_identifier_iff.2 (by decide), .ofList (by decide)⟩
    exact hhandle.append (isAlphanum_pascalCase hsnake)

/-- The same holds of the type of its parameters. -/
theorem isPlainName_paramsTypeName_iff (h : name.readsAsSnakeCase = true) :
    IsPlainName (paramsTypeName name) ↔ '\n' ∉ name := by
  constructor
  · exact fun hplain hbreak =>
      hplain.break_notMem (List.mem_append_left _ (break_mem_pascalCase hbreak))
  · intro hbreak
    have hsnake := Pattern.mem_snakeCase_iff.1 ((Text.mem_snakeCase_iff_of_reads h).2 hbreak)
    exact (isPlainName_pascalCase hsnake).append (.ofList (by decide))

end Naming

namespace Descriptor

open Naming

/-- The names that an accepted descriptor may have instead of its own. -/
theorem accepted_rename_iff {d : Descriptor} (h : d.Accepted) {name : Text} :
    { d with name }.Accepted ↔ name.readsAsSnakeCase = true := by
  have hchecks : d.PassesChecks := accepted_iff.1 h
  refine ⟨fun h => h.readsAsSnakeCase, fun hname => accepted_iff.2 ?_⟩
  exact ⟨hname, Text.isBlank_of_readsAsSnakeCase hname, hchecks.description, hchecks.rpcMethod,
    hchecks.parameters⟩

/-- **A handler's name is of the snake-case pattern, and its method and
its type have plain names, just if no line feed is in the name.** There may
be one at the end: what is accepted are the texts of the pattern, with a
line feed behind them or not. -/
theorem name_mem_snakeCase_iff {source : Text} {v : Value} {d : Descriptor}
    (h : ofValue source v = .ok d) :
    (d.name ∈ Pattern.snakeCase ↔ '\n' ∉ d.name)
    ∧ (IsPlainName (methodName d.name) ↔ '\n' ∉ d.name)
    ∧ (IsPlainName (paramsTypeName d.name) ↔ '\n' ∉ d.name)
    ∧ ∀ name, { d with name }.Accepted ↔
      name ∈ Pattern.snakeCase ∨ ∃ n ∈ Pattern.snakeCase, name = n ++ ['\n'] := by
  have haccepted : d.Accepted := ⟨source, v, h⟩
  have hname : d.name.readsAsSnakeCase = true := haccepted.readsAsSnakeCase
  refine ⟨Text.mem_snakeCase_iff_of_reads hname, isPlainName_methodName_iff hname,
    isPlainName_paramsTypeName_iff hname, fun name => ?_⟩
  rw [accepted_rename_iff haccepted, Text.readsAsSnakeCase_iff]

/-- A name without line feeds, and the same name with one. -/
theorem name_mem_snakeCase_iff_getVm :
    ofValue "core.yaml" (.dict getVm.record) = .ok getVm
      ∧ getVm.name ∈ Pattern.snakeCase
      ∧ IsPlainName "handleGetVm"
      ∧ IsPlainName "GetVmParams"
      ∧ { getVm with name := "get_vm\n" }.Accepted := by
  have hread : ofValue "core.yaml" (.dict getVm.record) = .ok getVm :=
    ofValue_record (accepted_iff.1 accepted_getVm) "core.yaml"
  have hbreak : '\n' ∉ getVm.name := by decide
  obtain ⟨hname, hmethod, htype, hrename⟩ := name_mem_snakeCase_iff hread
  exact ⟨hread, hname.2 hbreak, hmethod.2 hbreak, htype.2 hbreak,
    (hrename _).2 (.inr ⟨getVm.name, hname.2 hbreak, by decide⟩)⟩

/-- A handler with a line feed at the end of its name. -/
def getVmLine : Descriptor := { getVm with name := "get_vm\n" }

/-- **It is read from its record**, and neither its name is snake-case nor
are the names plain that are made of it. -/
theorem name_notMem_snakeCase_getVmLine :
    ofValue "core.yaml" (.dict getVmLine.record) = .ok getVmLine
      ∧ getVmLine.name ∉ Pattern.snakeCase
      ∧ ¬ IsPlainName (methodName getVmLine.name)
      ∧ ¬ IsPlainName (paramsTypeName getVmLine.name) := by
  have hname : getVmLine.name.readsAsSnakeCase = true := by decide
  have hbreak : '\n' ∈ getVmLine.name := by decide
  have haccepted : getVmLine.Accepted := (accepted_rename_iff accepted_getVm).2 hname
  have hread : ofValue "core.yaml" (.dict getVmLine.record) = .ok getVmLine :=
    ofValue_record (accepted_iff.1 haccepted) "core.yaml"
  refine ⟨hread, fun h => ?_, fun h => ?_, fun h => ?_⟩
  · exact (Text.mem_snakeCase_iff_of_reads hname).1 h hbreak
  · exact (isPlainName_methodName_iff hname).1 h hbreak
  · exact (isPlainName_paramsTypeName_iff hname).1 h hbreak

end Descriptor

end HandlerGen
