import HandlerGen.Proofs.Layout
import HandlerGen.Proofs.Literal
import HandlerGen.Proofs.NameCharacters
import Mathlib.Data.List.Flatten
/-!
# The form of literals

A literal of the generated code is closed by its last quote and by none
before (`StringLiteral.Open`), and it holds printable ASCII without the
four characters that mean something in hypertext
(`StringLiteral.isPlain_literal`). As it is read back too, **it stands for
its text wherever it is put** (`StringLiteral.standsFor_literal`).

It comes about in two layers that do not get in each other's way: first the
escapes of the notation, and then the units of the four characters wherever
these stand in the escaped text (`StringLiteral.literal_eq_foldl_replaced`).

Such literals are in both generated files: that of the remote method in the
call of each method, and that of the handler's name as the key of each entry.
These are lines of the texts of the files, in the order of the entries
(`Context.spells_texts`).
-/

namespace HandlerGen

namespace StringLiteral

/-- **A text that leaves a literal open**: each quote in it is escaped, and
it does not end with half an escape. -/
inductive Open : Text → Prop
  | nil : Open []
  | self {c : Char} {t : Text} : c ≠ '"' → c ≠ '\\' → Open t → Open (c :: t)
  | escape (c : Char) {t : Text} : Open t → Open ('\\' :: c :: t)

namespace Open

theorem append {s t : Text} (hs : Open s) (ht : Open t) : Open (s ++ t) := by
  induction hs with
  | nil => exact ht
  | self hquote hslash _ ih => exact .self hquote hslash ih
  | escape c _ ih => exact .escape c ih

theorem of_madeOf {t : Text} (h : MadeOf isSelf t) : Open t := by
  induction t with
  | nil => exact .nil
  | cons c t ih =>
    obtain ⟨-, hquote, hslash⟩ := isSelf_iff.1 (h c List.mem_cons_self)
    exact .self hquote hslash (ih fun d hd => h d (List.mem_cons_of_mem c hd))

theorem flatMap {f : Char → Text} (hf : ∀ c, Open (f c)) (t : Text) : Open (t.flatMap f) := by
  induction t with
  | nil => exact .nil
  | cons c t ih =>
    rw [List.flatMap_cons]
    exact (hf c).append ih

end Open

/-! ## Characters -/

theorem isSelf_digitChar {d : Nat} (h : d < 16) : isSelf d.digitChar = true := by
  have hall : ∀ d < 16, isSelf (Nat.digitChar d) = true := by decide
  exact hall d h

theorem madeOf_hexadecimal {n : Nat} (h : n < 0x10000) : MadeOf isSelf (hexadecimal 4 n) := by
  have hmod : ∀ m, isSelf (m % 16).digitChar = true :=
    fun m => isSelf_digitChar (Nat.mod_lt m (by omega))
  have hfirst : isSelf (n / 16 / 16 / 16).digitChar = true := isSelf_digitChar (by omega)
  rw [hexadecimal_four h]
  intro c hc
  simp only [List.mem_cons, List.not_mem_nil, or_false] at hc
  rcases hc with rfl | rfl | rfl | rfl
  · exact hfirst
  · exact hmod _
  · exact hmod _
  · exact hmod _

theorem open_unit {n : Nat} (h : n < 0x10000) : Open (unit n) :=
  .escape 'u' (.of_madeOf (madeOf_hexadecimal h))

theorem isPlain_unit {n : Nat} (h : n < 0x10000) : MadeOf isPlain (unit n) := by
  intro c hc
  rcases List.mem_cons.1 hc with rfl | hc
  · decide
  · rcases List.mem_cons.1 hc with rfl | hc
    · decide
    · exact (isSelf_iff.1 (madeOf_hexadecimal h c hc)).1

theorem open_character (c : Char) : Open (character c) := by
  have hspelling := spelling_character c
  generalize character c = s at hspelling ⊢
  cases hspelling with
  | short => exact .escape _ .nil
  | self h => exact .of_madeOf fun d hd => List.mem_singleton.1 hd ▸ h
  | units => exact units_of_unit .append open_unit c

theorem isPlain_character (c : Char) : MadeOf isPlain (character c) := by
  have hspelling := spelling_character c
  generalize character c = s at hspelling ⊢
  cases hspelling with
  | short h =>
    have hall : shorts.all (fun p => ['\\', p.2].all isPlain) = true := by decide
    exact List.all_eq_true.1 (List.all_eq_true.1 hall _ h)
  | self h => exact fun d hd => List.mem_singleton.1 hd ▸ (isSelf_iff.1 h).1
  | units => exact units_of_unit .append isPlain_unit c

/-! ## Literals -/

theorem isPlain_of_mem_markup {c : Char} (h : c ∈ markup) : isPlain c = false := by
  have hall : markup.all (fun c => !isPlain c) = true := by decide
  simpa using List.all_eq_true.1 hall c h

theorem isPlain_literal (t : Text) : MadeOf isPlain t.literal := by
  have hquote : MadeOf isPlain ['"'] := List.all_eq_true.1 (by decide)
  have hcharacters : MadeOf isPlain (t.flatMap character) := by
    intro c hc
    obtain ⟨d, -, hd⟩ := List.mem_flatMap.1 hc
    exact isPlain_character d c hd
  exact hquote.append (hcharacters.append hquote)

/-- **A literal stands for a text**: it is closed by its last quote and by
none before, it is written in printable ASCII on one line and without the
four characters of hypertext, and it is read as this text. -/
structure StandsFor (literal t : Text) : Prop where
  closed : ∃ inside, literal = '"' :: (inside ++ ['"']) ∧ Open inside
  printable : ∀ c ∈ literal, ' ' ≤ c ∧ c ≤ '~'
  unbroken : '\n' ∉ literal ∧ '\r' ∉ literal
  unmarked : ∀ c ∈ ['<', '>', '&', '\''], c ∉ literal
  decoded : decode literal = some t

theorem standsFor_literal (t : Text) : StandsFor t.literal t where
  closed := ⟨t.flatMap character, rfl, .flatMap open_character t⟩
  printable c hc := by
    have hplain : isPlain c = true := isPlain_literal t c hc
    simp only [isPlain, Bool.and_eq_true, decide_eq_true_eq] at hplain
    exact hplain.1
  unbroken := ⟨(isPlain_literal t).notMem (by decide), (isPlain_literal t).notMem (by decide)⟩
  unmarked c hc := (isPlain_literal t).notMem (isPlain_of_mem_markup hc)
  decoded := decode_literal t

/-! ## Layers -/

/-- A character between the quotes by the escapes of the notation alone. -/
def notated (c : Char) : Text :=
  if c = '"' then ['\\', '"']
  else if c = '\\' then ['\\', '\\']
  else if c = '\n' then ['\\', 'n']
  else if c = '\r' then ['\\', 'r']
  else if c = '\t' then ['\\', 't']
  else if c = '\x08' then ['\\', 'b']
  else if c = '\x0c' then ['\\', 'f']
  else if ' ' ≤ c ∧ c ≤ '~' then [c]
  else units c.toNat

/-- A text with a character replaced by its unit wherever it stands. -/
def replaced (t : Text) (c : Char) : Text := t.flatMap fun d => if d = c then unit c.toNat else [d]

theorem replaced_append (s t : Text) (c : Char) :
    replaced (s ++ t) c = replaced s c ++ replaced t c := List.flatMap_append

theorem foldl_replaced_append (s t cs : Text) :
    cs.foldl replaced (s ++ t) = cs.foldl replaced s ++ cs.foldl replaced t := by
  induction cs generalizing s t with
  | nil => rfl
  | cons c cs ih => rw [List.foldl_cons, List.foldl_cons, List.foldl_cons, replaced_append, ih]

theorem replaced_of_notMem {t : Text} {c : Char} (h : c ∉ t) : replaced t c = t := by
  induction t with
  | nil => rfl
  | cons d t ih =>
    obtain ⟨hd, ht⟩ := not_or.1 (mt List.mem_cons.2 h)
    rw [replaced, List.flatMap_cons, if_neg (Ne.symm hd), List.singleton_append]
    exact congrArg (d :: ·) (ih ht)

/-- A text without any of some characters stays as it is. -/
theorem foldl_replaced_of_notMem {t cs : Text} (h : ∀ c ∈ cs, c ∉ t) : cs.foldl replaced t = t := by
  induction cs with
  | nil => rfl
  | cons c cs ih =>
    rw [List.foldl_cons, replaced_of_notMem (h c List.mem_cons_self)]
    exact ih fun d hd => h d (List.mem_cons_of_mem c hd)

/-- **The four characters are replaced wherever they stand, and what the
notation has escaped is not.** -/
theorem foldl_replaced_notated (c : Char) : markup.foldl replaced (notated c) = character c := by
  by_cases h : c = '<' ∨ c = '>' ∨ c = '&' ∨ c = '\''
  · rcases h with rfl | rfl | rfl | rfl <;> decide
  · have hsame : notated c = character c := by simp only [notated, character, h, if_false]
    rw [hsame]
    exact foldl_replaced_of_notMem fun d hd =>
      (isPlain_character c).notMem (isPlain_of_mem_markup hd)

/-- **A literal comes about in two layers.** -/
theorem literal_eq_foldl_replaced (t : Text) :
    t.literal = markup.foldl replaced ('"' :: (t.flatMap notated ++ ['"'])) := by
  have hquote : markup.foldl replaced ['"'] = ['"'] := by decide
  have hcharacters : markup.foldl replaced (t.flatMap notated) = t.flatMap character := by
    induction t with
    | nil => decide
    | cons c t ih =>
      rw [List.flatMap_cons, foldl_replaced_append, ih, foldl_replaced_notated, List.flatMap_cons]
  rw [← List.singleton_append, foldl_replaced_append, foldl_replaced_append, hquote, hcharacters]
  rfl

/-- A text that looks like an escape is no escape in its literal. -/
example : Text.literal "\\u003c<\x7f" = "\"\\\\u003c\\u003c\\u007f\"" := by decide

end StringLiteral

/-! ## In the files -/

/-- A line for each member of a list, if it is among the lines of the
member, is among the lines of all, and in order. -/
theorem map_sublist_flatMap {α : Type} {f : α → Text} {g : α → List Text}
    (h : ∀ a, f a ∈ g a) (as : List α) : (as.map f).Sublist (as.flatMap g) := by
  rw [List.map_eq_flatMap]
  exact List.Sublist.flatMap_right as fun a _ => List.singleton_sublist.2 (h a)

/-- The call of an entry, with the literal of its remote method. -/
def Entry.spelledCall (e : Entry) : Text :=
  "    const result = await this.rpcUtils." ++ e.callPath.function ++ "(" ++ e.rpcMethod.literal
    ++ ", port, " ++ e.paramsExpression ++ ");"

/-- The opening of an entry of the dispatch map, with the literal of its
name. -/
def Entry.spelledKey (e : Entry) : Text := "    " ++ e.name.literal ++ ": (request: any) => \x7b"

theorem Method.callLine_mem_lines (m : Method) : m.callLine ∈ m.lines := by
  simp [lines, bodyLines]

theorem DispatchEntry.openingLine_mem_lines (e : DispatchEntry) : e.openingLine ∈ e.lines :=
  List.mem_cons_self

theorem ClassFile.callLines_sublist (f : ClassFile) :
    (f.methods.map Method.callLine).Sublist f.lines := by
  have hmethods := map_sublist_flatMap Method.callLine_mem_lines f.methods
  rw [lines]
  exact (((hmethods.trans (List.sublist_append_left ..)).trans (List.sublist_append_right ..)).trans
    (List.sublist_append_right ..)).trans
      ((List.sublist_append_right ..).trans (List.sublist_append_right ..))

theorem DispatchMap.openingLines_sublist (f : DispatchMap) :
    (f.entries.map DispatchEntry.openingLine).Sublist f.lines := by
  have hentries := map_sublist_flatMap DispatchEntry.openingLine_mem_lines f.entries
  rw [lines]
  exact ((hentries.trans (List.sublist_append_left ..)).trans (List.sublist_append_right ..)).trans
    (List.sublist_append_right ..)

/-- **Every text goes into the generated files as a literal that stands for
it.** This holds of all texts, different texts have different literals, and
a literal comes about in two layers, of which the second replaces what
means something in hypertext in the escaped text. In the files that are laid
out from a context, the call of each method has the literal of its remote
method as first argument, and the key of each entry is the literal of the
handler's name; the calls are lines of the text of the class file and the
keys open lines of the dispatch map, both in the order of the entries. -/
theorem Context.spells_texts :
    (∀ t : Text, StringLiteral.StandsFor t.literal t)
    ∧ Function.Injective Text.literal
    ∧ (∀ t : Text, t.literal = StringLiteral.markup.foldl StringLiteral.replaced
        ('"' :: (t.flatMap StringLiteral.notated ++ ['"'])))
    ∧ ∀ c : Context, ∃ f g, ClassFile.ofData c.data = .ok f ∧ DispatchMap.ofData c.data = .ok g
      ∧ Artifact.ofData c.data = .ok ⟨f.text, g.text⟩
      ∧ f.methods.map Method.callLine = c.entries.map Entry.spelledCall
      ∧ g.entries.map DispatchEntry.openingLine = c.entries.map Entry.spelledKey
      ∧ (∃ ls, f.text = Text.ofLines ls ∧ (c.entries.map Entry.spelledCall).Sublist ls)
      ∧ ∃ ls, g.text = Text.ofLines ls ∧ (c.entries.map Entry.spelledKey).Sublist ls := by
  refine ⟨StringLiteral.standsFor_literal, StringLiteral.literal_injective,
    StringLiteral.literal_eq_foldl_replaced, fun c => ?_⟩
  have hcalls : c.classFile.methods.map Method.callLine = c.entries.map Entry.spelledCall := by
    rw [classFile, List.map_map]
    rfl
  have hkeys : c.dispatchMap.entries.map DispatchEntry.openingLine
      = c.entries.map Entry.spelledKey := by
    rw [dispatchMap, List.map_map]
    rfl
  refine ⟨c.classFile, c.dispatchMap, c.classFileOfData_data, c.dispatchMapOfData_data,
    c.ofData_data, hcalls, hkeys, ⟨_, rfl, ?_⟩, ⟨_, rfl, ?_⟩⟩
  · rw [← hcalls]
    exact c.classFile.callLines_sublist
  · rw [← hkeys]
    exact c.dispatchMap.openingLines_sublist

end HandlerGen
