import HandlerGen.Proofs.Reader
import HandlerGen.Text.StringLiteral
/-!
# Literals read back

The reader of double-quoted literals in generated code. It knows all the
escapes of the notation, in either case of the hexadecimal digits, and
puts a pair of UTF-16 units together to one character
(`StringLiteral.reader`); a unit of a pair that stands alone is refused.

**A literal reads back as the text it stands for**
(`StringLiteral.takes_literal`), so different texts have different
literals.
-/

namespace HandlerGen

namespace StringLiteral

/-! ## The reader -/

/-- The value of a hexadecimal digit, in either case. -/
def digit? (c : Char) : Option Nat :=
  if '0' ≤ c ∧ c ≤ '9' then some (c.toNat - '0'.toNat)
  else if 'a' ≤ c ∧ c ≤ 'f' then some (c.toNat - 'a'.toNat + 10)
  else if 'A' ≤ c ∧ c ≤ 'F' then some (c.toNat - 'A'.toNat + 10)
  else none

/-- The number that four digits spell. -/
def number? (a b c d : Char) : Option Nat := do
  let a ← digit? a
  let b ← digit? b
  let c ← digit? c
  let d ← digit? d
  return ((a * 16 + b) * 16 + c) * 16 + d

/-- The character that a short escape stands for. -/
def short? : Char → Option Char
  | '"' => some '"'
  | '\\' => some '\\'
  | '/' => some '/'
  | 'b' => some '\x08'
  | 'f' => some '\x0c'
  | 'n' => some '\n'
  | 'r' => some '\r'
  | 't' => some '\t'
  | _ => none

/-- Takes an escape or a character that stands for itself, and gives its
code. Neither the quote nor a control character stands for itself. -/
def code : Reader Nat
  | '\\' :: 'u' :: a :: b :: c :: d :: t => (number? a b c d).map fun n => (n, t)
  | '\\' :: e :: t => (short? e).map fun c => (c.toNat, t)
  | c :: t => if c = '"' ∨ c = '\\' ∨ c.toNat < 0x20 then none else some (c.toNat, t)
  | [] => none

/-- The character with a code, if there is one. -/
def ofCode (n : Nat) : Reader Char := fun t =>
  if n.isValidChar then some (Char.ofNat n, t) else none

/-- Takes one character, which may be spelt by two units. -/
def characterReader : Reader Char := do
  let n ← code
  if 0xD800 ≤ n ∧ n < 0xDC00 then
    let m ← code
    if 0xDC00 ≤ m ∧ m < 0xE000 then ofCode (0x10000 + (n - 0xD800) * 0x400 + (m - 0xDC00))
    else failure
  else ofCode n

/-- Takes a literal, and gives the text that it stands for. -/
def reader : Reader Text := do
  Reader.expect ['"']
  let t ← Reader.many characterReader
  Reader.expect ['"']
  return t

/-- The text that a literal stands for. -/
def decode (literal : Text) : Option Text := reader.whole literal

/-! ## Spelling -/

/-- The code of a character is none of a unit of a pair. -/
theorem toNat_bounds (c : Char) : c.toNat < 0xD800 ∨ 0xDFFF < c.toNat ∧ c.toNat < 0x110000 :=
  c.valid

/-- The characters that mean something in hypertext. -/
def markup : Text := ['<', '>', '&', '\'']

/-- Whether a literal may hold a character: printable ASCII that means
nothing in hypertext. -/
def isPlain (c : Char) : Bool := ' ' ≤ c && c ≤ '~' && !markup.contains c

/-- Whether a character stands for itself in a literal. -/
def isSelf (c : Char) : Bool := isPlain c && c != '"' && c != '\\'

theorem isSelf_iff {c : Char} : isSelf c = true ↔ isPlain c = true ∧ c ≠ '"' ∧ c ≠ '\\' := by
  simp only [isSelf, Bool.and_eq_true, bne_iff_ne, and_assoc]

/-- The characters with a short escape, and what stands for each behind the
backslash. -/
def shorts : List (Char × Char) :=
  [('"', '"'), ('\\', '\\'), ('\n', 'n'), ('\r', 'r'), ('\t', 't'), ('\x08', 'b'), ('\x0c', 'f')]

/-- **How a character is spelt between the quotes**: by a short escape, as
itself, or by its units. -/
inductive Spelling (c : Char) : Text → Prop
  | short {e : Char} : (c, e) ∈ shorts → Spelling c ['\\', e]
  | self : isSelf c = true → Spelling c [c]
  | units : Spelling c (units c.toNat)

theorem spelling_character (c : Char) : Spelling c (character c) := by
  unfold character
  -- the seven short escapes
  iterate 7
    split
    · next h =>
      subst h
      exact .short (by decide)
  split
  · next h => rcases h with rfl | rfl | rfl | rfl <;> exact .units
  split
  · next hquote hslash _ _ _ _ _ hmarkup hrange =>
    refine .self (isSelf_iff.2 ⟨?_, hquote, hslash⟩)
    simpa [isPlain, markup, hrange] using hmarkup
  · exact .units

/-- What holds of units holds of the one or two that a character has. -/
theorem units_of_unit {p : Text → Prop} (happend : ∀ {s t : Text}, p s → p t → p (s ++ t))
    (hunit : ∀ {n : Nat}, n < 0x10000 → p (unit n)) (c : Char) : p (units c.toNat) := by
  have hbounds := toNat_bounds c
  unfold units
  split
  · next h => exact hunit h
  · exact happend (hunit (by omega)) (hunit (by omega))

/-! ## Hexadecimal -/

/-- The last digit of a number is split off. -/
theorem hexadecimal_succ {w : Nat} (hw : 0 < w) (n : Nat) :
    hexadecimal (w + 1) n = hexadecimal w (n / 16) ++ [(n % 16).digitChar] := by
  have hmod : n % 16 < 16 := Nat.mod_lt _ (by omega)
  by_cases hn : 0 < n / 16
  · have hdigits : Nat.toDigits 16 n = Nat.toDigits 16 (n / 16) ++ [(n % 16).digitChar] := by
      have h := Nat.toDigits_append_toDigits (b := 16) (by omega) hn hmod
      rw [Nat.div_add_mod, Nat.toDigits_of_lt_base hmod] at h
      exact h.symm
    simp only [hexadecimal, hdigits, List.leftpad, List.length_append, List.length_singleton,
      Nat.add_sub_add_right, List.append_assoc]
  · have hsmall : n < 16 := by omega
    rw [show n / 16 = 0 by omega, Nat.mod_eq_of_lt hsmall]
    obtain ⟨k, rfl⟩ : ∃ k, w = k + 1 := ⟨w - 1, by omega⟩
    simp [hexadecimal, Nat.toDigits_of_lt_base hsmall, List.leftpad, List.replicate_succ']

theorem hexadecimal_one {n : Nat} (h : n < 16) : hexadecimal 1 n = [n.digitChar] := by
  simp [hexadecimal, Nat.toDigits_of_lt_base h, List.leftpad]

/-- Four digits spell a number of four digits. -/
theorem hexadecimal_four {n : Nat} (h : n < 0x10000) :
    hexadecimal 4 n = [(n / 16 / 16 / 16).digitChar, (n / 16 / 16 % 16).digitChar,
      (n / 16 % 16).digitChar, (n % 16).digitChar] := by
  have hsmall : n / 16 / 16 / 16 < 16 := by omega
  rw [hexadecimal_succ (by omega), hexadecimal_succ (by omega), hexadecimal_succ (by omega),
    hexadecimal_one hsmall]
  rfl

/-- A digit has the value it is written for. -/
theorem digit?_digitChar {d : Nat} (h : d < 16) : digit? d.digitChar = some d := by
  have hall : ∀ d < 16, digit? (Nat.digitChar d) = some d := by decide
  exact hall d h

/-- So four digits have the value of the number that they spell. -/
theorem number?_digitChar {n : Nat} (h : n < 0x10000) :
    number? (n / 16 / 16 / 16).digitChar (n / 16 / 16 % 16).digitChar (n / 16 % 16).digitChar
      (n % 16).digitChar = some n := by
  simp only [number?, digit?_digitChar (show n / 16 / 16 / 16 < 16 by omega),
    digit?_digitChar (show n / 16 / 16 % 16 < 16 by omega),
    digit?_digitChar (show n / 16 % 16 < 16 by omega),
    digit?_digitChar (show n % 16 < 16 by omega), Option.bind_eq_bind, Option.bind_some,
    Option.pure_def, Option.some.injEq]
  omega

/-! ## Characters -/

/-- An escaped unit is taken for its number. -/
theorem takes_unit {n : Nat} (h : n < 0x10000) : Takes code (unit n) n := by
  intro rest
  rw [unit, hexadecimal_four h]
  change (number? _ _ _ _).map _ = _
  rw [number?_digitChar h]
  rfl

theorem takes_ofCode (c : Char) : Takes (ofCode c.toNat) [] c := by
  have hvalid : c.toNat.isValidChar := c.valid
  intro rest
  rw [ofCode, if_pos hvalid, Char.ofNat_toNat]
  rfl

theorem takes_characterReader_of_code {s : Text} {c : Char} (h : Takes code s c.toNat) :
    Takes characterReader s c := by
  have hsingle : ¬ (0xD800 ≤ c.toNat ∧ c.toNat < 0xDC00) := by
    have := toNat_bounds c
    omega
  refine Takes.cast (List.append_nil s) (h.bind ?_)
  rw [if_neg hsingle]
  exact takes_ofCode c

/-- A character above the basic plane is read from its pair. -/
theorem takes_characterReader_units {c : Char} (h : 0x10000 ≤ c.toNat) :
    Takes characterReader (units c.toNat) c := by
  have hbounds := toNat_bounds c
  obtain ⟨m, hm⟩ : ∃ m, c.toNat - 0x10000 = m := ⟨_, rfl⟩
  rw [units, if_neg (by omega), hm]
  refine Takes.bind (takes_unit (by omega)) ?_
  rw [if_pos (by omega)]
  refine Takes.cast (List.append_nil _) (Takes.bind (takes_unit (by omega)) ?_)
  have hsum : 0x10000 + (0xD800 + m / 0x400 - 0xD800) * 0x400 + (0xDC00 + m % 0x400 - 0xDC00)
      = c.toNat := by omega
  rw [if_pos (by omega), hsum]
  exact takes_ofCode c

/-- A character that stands for itself is taken for its code. -/
theorem takes_code_self {c : Char} (hquote : c ≠ '"') (hslash : c ≠ '\\')
    (hcontrol : ¬ c.toNat < 0x20) : Takes code [c] c.toNat := by
  intro rest
  change code (c :: rest) = _
  unfold code
  split
  · next h => exact absurd (List.cons.inj h).1 hslash
  · next h => exact absurd (List.cons.inj h).1 hslash
  · next h =>
    obtain ⟨rfl, rfl⟩ := List.cons.inj h
    rw [if_neg (by simp [hquote, hslash, hcontrol])]
  · next h => exact absurd h (List.cons_ne_nil c rest)

/-- A short escape is taken for the code of its character. -/
theorem takes_short {c e : Char} (h : (c, e) ∈ shorts) : Takes code ['\\', e] c.toNat := by
  simp only [shorts, List.mem_cons, Prod.mk.injEq, List.not_mem_nil, or_false] at h
  rcases h with ⟨rfl, rfl⟩ | ⟨rfl, rfl⟩ | ⟨rfl, rfl⟩ | ⟨rfl, rfl⟩ | ⟨rfl, rfl⟩ | ⟨rfl, rfl⟩
    | ⟨rfl, rfl⟩ <;> exact fun _ => rfl

/-- **A character between the quotes reads back.** -/
theorem takes_character (c : Char) : Takes characterReader (character c) c := by
  have hspelling := spelling_character c
  generalize character c = s at hspelling ⊢
  cases hspelling with
  | short h => exact takes_characterReader_of_code (takes_short h)
  | self h =>
    obtain ⟨hplain, hquote, hslash⟩ := isSelf_iff.1 h
    have hcontrol : ¬ c.toNat < 0x20 := by
      simp only [isPlain, Bool.and_eq_true, decide_eq_true_eq] at hplain
      exact Nat.not_lt.2 hplain.1.1
    exact takes_characterReader_of_code (takes_code_self hquote hslash hcontrol)
  | units =>
    by_cases h : 0x10000 ≤ c.toNat
    · exact takes_characterReader_units h
    · rw [units, if_pos (by omega)]
      exact takes_characterReader_of_code (takes_unit (by omega))

/-! ## Literals -/

/-- Every character has an escape or stands for itself. -/
theorem character_ne_nil (c : Char) : character c ≠ [] := by
  intro h
  have hread := takes_character c []
  rw [h] at hread
  exact absurd hread (by simp [characterReader, code, bind, StateT.bind])

/-- **A literal is taken for the text that it stands for.** -/
theorem takes_literal (t : Text) : Takes reader t.literal t := by
  have hquote : ∀ rest, characterReader (['"'] ++ rest) = none := fun _ => rfl
  have htext : t.map id = t := List.map_id t
  have hend : Takes (do Reader.expect ['"']; return t) ['"'] t :=
    (Takes.expect ['"']).bind Takes.pure
  refine (Takes.expect ['"']).bind (Takes.many_bind (v := id) (fun c _ => takes_character c)
    (fun c _ => character_ne_nil c) hquote ?_)
  rw [htext]
  exact hend

/-- So it decodes to this text. -/
theorem decode_literal (t : Text) : decode t.literal = some t := (takes_literal t).whole

/-- **Different texts have different literals.** -/
theorem literal_injective : Function.Injective Text.literal := by
  intro s t h
  have hread := decode_literal s
  rw [h, decode_literal] at hread
  exact (Option.some.inj hread).symm

end StringLiteral

end HandlerGen
