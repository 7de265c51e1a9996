import HandlerGen.Proofs.NamePatterns
import Mathlib.Data.Set.Function
/-!
# Names are spelt in two ways

A snake-case name and its words put together say the same: what is a small
letter behind a mark in one is a capital in the other. So capitalising the
words is a bijection of the snake-case names onto the texts of the pattern
`([A-Z][a-z0-9]*)+` (`Naming.invOn_pascalCase`), and **the names of methods
and of types stand for the snake-case names one to one**
(`Naming.bijOn_methodName`). The way back lowers the capitals and puts a
mark before each of them but the first.
-/

namespace HandlerGen

open scoped Computability

namespace Pattern

/-- One text. -/
def literal (t : Text) : Language Char := {t}

/-- A capitalised word, `[A-Z][a-z0-9]*`. -/
def capitalWord : Language Char := range 'A' 'Z' * (range 'a' 'z' + range '0' '9')∗

/-- Capitalised words put together, `([A-Z][a-z0-9]*)+`. -/
def pascalCase : Language Char := capitalWord * capitalWord∗

/-- Names of methods, `handle([A-Z][a-z0-9]*)+`. -/
def methodName : Language Char := literal "handle" * pascalCase

/-- Names of the types of parameters, `([A-Z][a-z0-9]*)+Params`. -/
def paramsTypeName : Language Char := pascalCase * literal "Params"

variable {t : Text}

/-- Capitalised words put together are a row of them that is not empty. -/
theorem mem_pascalCase_iff : t ∈ pascalCase ↔
    ∃ gs : List Text, gs ≠ [] ∧ (∀ g ∈ gs, g ∈ capitalWord) ∧ t = gs.flatten := by
  rw [pascalCase, Language.mem_mul]
  constructor
  · rintro ⟨g, hg, rest, hrest, rfl⟩
    obtain ⟨gs, rfl, hgs⟩ := Language.mem_kstar.1 hrest
    exact ⟨g :: gs, List.cons_ne_nil g gs, List.forall_mem_cons.2 ⟨hg, hgs⟩, rfl⟩
  · rintro ⟨gs, hne, hgs, rfl⟩
    obtain ⟨g, gs, rfl⟩ := List.exists_cons_of_ne_nil hne
    obtain ⟨hg, hgs⟩ := List.forall_mem_cons.1 hgs
    exact ⟨g, hg, gs.flatten, Language.mem_kstar.2 ⟨gs, rfl, hgs⟩, rfl⟩

theorem mem_methodName_iff :
    t ∈ methodName ↔ ∃ u ∈ pascalCase, t = ("handle" : Text) ++ u := by
  rw [methodName, Language.mem_mul]
  constructor
  · rintro ⟨s, hs, u, hu, rfl⟩
    have hhandle : s = "handle" := hs
    exact ⟨u, hu, by rw [hhandle]⟩
  · rintro ⟨u, hu, rfl⟩
    exact ⟨_, Set.mem_singleton _, u, hu, rfl⟩

theorem mem_paramsTypeName_iff :
    t ∈ paramsTypeName ↔ ∃ u ∈ pascalCase, t = u ++ ("Params" : Text) := by
  rw [paramsTypeName, Language.mem_mul]
  constructor
  · rintro ⟨u, hu, s, hs, rfl⟩
    have hparams : s = "Params" := hs
    exact ⟨u, hu, by rw [hparams]⟩
  · rintro ⟨u, hu, rfl⟩
    exact ⟨u, hu, _, Set.mem_singleton _, rfl⟩

/-- Words with marks between them are a snake-case name. -/
theorem intercalate_mem_snakeCase {ws : List Text} (hne : ws ≠ [])
    (hws : ∀ w ∈ ws, Text.isSnakeWord w = true) : ['_'].intercalate ws ∈ snakeCase := by
  have hmark : ∀ w ∈ ws, '_' ∉ w := fun w hw => mark_notMem_of_isSnakeWord (hws w hw)
  rw [mem_snakeCase_iff, Text.isSnakeCase, List.splitOn_intercalate '_' hmark hne]
  exact List.all_eq_true.2 hws

end Pattern

namespace Naming

/-! ## Words -/

/-- The capital of a small letter. -/
theorem upperCase_mem_range {c : Char} (h : 'a' ≤ c ∧ c ≤ 'z') :
    upperCase c ∈ Pattern.range 'A' 'Z' := by
  have hascii : c.toNat < 0x80 := Nat.lt_of_le_of_lt h.2 (by decide)
  refine ⟨Char.ofNat (c.toNat - 0x20), ?_⟩
  exact Text.of_ascii
    (p := fun c => 'a' ≤ c ∧ c ≤ 'z' → upperCase c = [Char.ofNat (c.toNat - 0x20)]
      ∧ 'A' ≤ Char.ofNat (c.toNat - 0x20) ∧ Char.ofNat (c.toNat - 0x20) ≤ 'Z')
    (by decide +kernel) hascii h

/-- Each capital is the capital of a small letter. -/
theorem exists_upperCase_eq {c : Char} (h : 'A' ≤ c ∧ c ≤ 'Z') :
    ∃ d, ('a' ≤ d ∧ d ≤ 'z') ∧ upperCase d = [c] := by
  have hascii : c.toNat < 0x80 := Nat.lt_of_le_of_lt h.2 (by decide)
  refine ⟨Char.ofNat (c.toNat + 0x20), ?_⟩
  exact Text.of_ascii
    (p := fun c => 'A' ≤ c ∧ c ≤ 'Z' →
      ('a' ≤ Char.ofNat (c.toNat + 0x20) ∧ Char.ofNat (c.toNat + 0x20) ≤ 'z')
        ∧ upperCase (Char.ofNat (c.toNat + 0x20)) = [c])
    (by decide +kernel) hascii h

/-- **The capitalised words are the words, capitalised.** -/
theorem mem_capitalWord_iff {g : Text} :
    g ∈ Pattern.capitalWord ↔ ∃ w : Text, w.isSnakeWord = true ∧ capitalised w = g := by
  constructor
  · rintro ⟨u, ⟨c, rfl, hc⟩, t, ht, rfl⟩
    obtain ⟨d, hd, hcapital⟩ := exists_upperCase_eq hc
    refine ⟨d :: t, Pattern.mem_word_iff.1 ⟨[d], ⟨d, rfl, hd⟩, t, ht, rfl⟩, ?_⟩
    rw [capitalised, hcapital]
  · rintro ⟨w, hw, rfl⟩
    obtain ⟨u, ⟨c, rfl, hc⟩, t, ht, rfl⟩ := Pattern.mem_word_iff.2 hw
    exact ⟨upperCase c, upperCase_mem_range hc, t, ht, rfl⟩

/-- A row of capitalised words comes from a row of words. -/
theorem exists_map_capitalised {gs : List Text} (h : ∀ g ∈ gs, g ∈ Pattern.capitalWord) :
    ∃ ws : List Text, (∀ w ∈ ws, Text.isSnakeWord w = true) ∧ ws.map capitalised = gs := by
  induction gs with
  | nil => exact ⟨[], List.forall_mem_nil _, rfl⟩
  | cons g gs ih =>
    obtain ⟨hg, hgs⟩ := List.forall_mem_cons.1 h
    obtain ⟨w, hw, rfl⟩ := mem_capitalWord_iff.1 hg
    obtain ⟨ws, hws, rfl⟩ := ih hgs
    exact ⟨w :: ws, List.forall_mem_cons.2 ⟨hw, hws⟩, rfl⟩

/-! ## Names -/

/-- A snake-case name is put together to capitalised words. -/
theorem pascalCase_mem {t : Text} (h : t ∈ Pattern.snakeCase) :
    pascalCase t ∈ Pattern.pascalCase := by
  have hwords : ∀ w ∈ t.splitOn '_', Text.isSnakeWord w = true :=
    List.all_eq_true.1 (Pattern.mem_snakeCase_iff.1 h)
  refine Pattern.mem_pascalCase_iff.2 ⟨(t.splitOn '_').map capitalised, ?_, fun g hg => ?_, rfl⟩
  · exact fun hnil => List.splitOn_ne_nil '_' t (List.map_eq_nil_iff.1 hnil)
  · obtain ⟨w, hw, rfl⟩ := List.mem_map.1 hg
    exact mem_capitalWord_iff.2 ⟨w, hwords w hw, rfl⟩

/-- **All rows of capitalised words are names put together.** -/
theorem exists_pascalCase_eq {u : Text} (h : u ∈ Pattern.pascalCase) :
    ∃ t ∈ Pattern.snakeCase, pascalCase t = u := by
  obtain ⟨gs, hne, hgs, rfl⟩ := Pattern.mem_pascalCase_iff.1 h
  obtain ⟨ws, hws, rfl⟩ := exists_map_capitalised hgs
  have hws_ne : ws ≠ [] := fun hnil => hne (by rw [hnil, List.map_nil])
  have hmark : ∀ w ∈ ws, '_' ∉ w := fun w hw => Pattern.mark_notMem_of_isSnakeWord (hws w hw)
  refine ⟨['_'].intercalate ws, Pattern.intercalate_mem_snakeCase hws_ne hws, ?_⟩
  rw [pascalCase, List.splitOn_intercalate '_' hmark hws_ne]
  rfl

/-- A snake-case name is read off its words put together, and these are put
together again from it. -/
theorem invOn_pascalCase :
    Set.InvOn snakeCase pascalCase Pattern.snakeCase Pattern.pascalCase := by
  constructor
  · exact fun t ht => snakeCase_pascalCase (Pattern.mem_snakeCase_iff.1 ht)
  · intro u hu
    obtain ⟨t, ht, rfl⟩ := exists_pascalCase_eq hu
    rw [snakeCase_pascalCase (Pattern.mem_snakeCase_iff.1 ht)]

/-- What is read off capitalised words is a snake-case name. -/
theorem snakeCase_mem {u : Text} (h : u ∈ Pattern.pascalCase) :
    snakeCase u ∈ Pattern.snakeCase := by
  obtain ⟨t, ht, rfl⟩ := exists_pascalCase_eq h
  rwa [snakeCase_pascalCase (Pattern.mem_snakeCase_iff.1 ht)]

/-! ## Names of methods and types -/

/-- The handler's name that the name of a method is made of: `handle` is
left out, each capital is lowered, and each but the first gets a mark. -/
def nameOfMethod (m : Text) : Text := snakeCase (m.drop ("handle" : Text).length)

/-- The handler's name that the name of a type is made of: `Params` is left
out, and the rest is read as for a method. -/
def nameOfParamsType (t : Text) : Text :=
  snakeCase (t.take (t.length - ("Params" : Text).length))

theorem nameOfMethod_append (u : Text) : nameOfMethod ("handle" ++ u) = snakeCase u := by
  rw [nameOfMethod, List.drop_left]

theorem nameOfParamsType_append (u : Text) : nameOfParamsType (u ++ "Params") = snakeCase u := by
  rw [nameOfParamsType, List.length_append, Nat.add_sub_cancel, List.take_left]

/-- A snake-case name and the name of its method give each other back. -/
theorem invOn_methodName :
    Set.InvOn nameOfMethod methodName Pattern.snakeCase Pattern.methodName := by
  constructor
  · intro t ht
    unfold methodName
    rw [nameOfMethod_append, invOn_pascalCase.1 ht]
  · intro m hm
    obtain ⟨u, hu, rfl⟩ := Pattern.mem_methodName_iff.1 hm
    unfold methodName
    rw [nameOfMethod_append, invOn_pascalCase.2 hu]

/-- And so do a snake-case name and the name of its type. -/
theorem invOn_paramsTypeName :
    Set.InvOn nameOfParamsType paramsTypeName Pattern.snakeCase Pattern.paramsTypeName := by
  constructor
  · intro t ht
    rw [paramsTypeName, nameOfParamsType_append, invOn_pascalCase.1 ht]
  · intro m hm
    obtain ⟨u, hu, rfl⟩ := Pattern.mem_paramsTypeName_iff.1 hm
    rw [nameOfParamsType_append, paramsTypeName, invOn_pascalCase.2 hu]

/-- **The names of methods and those of types are the snake-case names, one
to one.** Each has its own way back. -/
theorem bijOn_methodName :
    Set.BijOn methodName Pattern.snakeCase Pattern.methodName
      ∧ Set.InvOn nameOfMethod methodName Pattern.snakeCase Pattern.methodName
      ∧ Set.BijOn paramsTypeName Pattern.snakeCase Pattern.paramsTypeName
      ∧ Set.InvOn nameOfParamsType paramsTypeName Pattern.snakeCase Pattern.paramsTypeName := by
  refine ⟨invOn_methodName.bijOn ?_ ?_, invOn_methodName, invOn_paramsTypeName.bijOn ?_ ?_,
    invOn_paramsTypeName⟩
  · exact fun t ht => Pattern.mem_methodName_iff.2 ⟨pascalCase t, pascalCase_mem ht, rfl⟩
  · intro m hm
    obtain ⟨u, hu, rfl⟩ := Pattern.mem_methodName_iff.1 hm
    rw [nameOfMethod_append]
    exact snakeCase_mem hu
  · exact fun t ht => Pattern.mem_paramsTypeName_iff.2 ⟨pascalCase t, pascalCase_mem ht, rfl⟩
  · intro m hm
    obtain ⟨u, hu, rfl⟩ := Pattern.mem_paramsTypeName_iff.1 hm
    rw [nameOfParamsType_append]
    exact snakeCase_mem hu

end Naming

end HandlerGen
