import HandlerGen.Proofs.NameCharacters
import Mathlib.Data.List.Basic
/-!
# Method names tell handlers apart

A capital in a name that was put together starts a word, since the words
of a snake-case name are in small letters and digits. So the snake-case
name can be read off it (`Naming.snakeCase_pascalCase`), and **different
snake-case names have different methods** (`Naming.methodName_inj`).
-/

namespace HandlerGen

namespace Naming

/-- What a character of a name that was put together came from: a capital
starts a word. -/
def wordStart (c : Char) : Text :=
  if 'A' ≤ c ∧ c ≤ 'Z' then ['_', Char.ofNat (c.toNat + 0x20)] else [c]

/-- The snake-case name of words that were put together. -/
def snakeCase (t : Text) : Text := (t.flatMap wordStart).tail

/-- The capital of a small letter starts a word with that letter. -/
theorem flatMap_wordStart_upperCase {c : Char} (h : 'a' ≤ c ∧ c ≤ 'z') :
    (upperCase c).flatMap wordStart = ['_', c] := by
  have hascii : c.toNat < 0x80 := Nat.lt_of_le_of_lt h.2 (by decide)
  exact Text.of_ascii
    (p := fun c => 'a' ≤ c ∧ c ≤ 'z' → (upperCase c).flatMap wordStart = ['_', c])
    (by decide +kernel) hascii h

theorem wordStart_of_small {c : Char} (h : ('a' ≤ c ∧ c ≤ 'z') ∨ ('0' ≤ c ∧ c ≤ '9')) :
    wordStart c = [c] := by
  have hcapital : ¬ ('A' ≤ c ∧ c ≤ 'Z') := by
    simp only [Char.le_def, UInt32.le_iff_toNat_le] at h ⊢
    have ha : 'a'.val.toNat = 0x61 := rfl
    have hA : 'A'.val.toNat = 0x41 := rfl
    have hZ : 'Z'.val.toNat = 0x5A := rfl
    have h9 : '9'.val.toNat = 0x39 := rfl
    omega
  rw [wordStart, if_neg hcapital]

/-- A capitalised word gives back the word, with the mark before it. -/
theorem flatMap_wordStart_capitalised {w : Text} (h : w.isSnakeWord = true) :
    (capitalised w).flatMap wordStart = '_' :: w := by
  cases w with
  | nil => exact absurd h Bool.false_ne_true
  | cons c t =>
    simp only [Text.isSnakeWord, Bool.and_eq_true, decide_eq_true_eq, List.all_eq_true,
      Bool.or_eq_true] at h
    have htail : t.flatMap wordStart = t := by
      have hsingle : t.flatMap wordStart = t.flatMap fun d => [d] :=
        List.flatMap_congr fun d hd => wordStart_of_small (h.2 d hd)
      rw [hsingle, List.flatMap_singleton']
    rw [capitalised, List.flatMap_append, flatMap_wordStart_upperCase h.1, htail]
    rfl

/-- Words with a mark before each of them are words with marks between
them, with one mark more at the start. -/
theorem flatMap_cons_eq_intercalate {x : Char} {ws : List Text} (h : ws ≠ []) :
    ws.flatMap (fun w => x :: w) = x :: [x].intercalate ws := by
  obtain ⟨w, ws, rfl⟩ := List.exists_cons_of_ne_nil h
  rw [Text.intercalate_cons]
  rfl

/-- Words put together give back the name, with the mark before it. -/
theorem flatMap_wordStart_pascalCase {t : Text} (h : t.isSnakeCase = true) :
    (pascalCase t).flatMap wordStart = '_' :: t := by
  have hwords : ∀ w ∈ t.splitOn '_', Text.isSnakeWord w = true := List.all_eq_true.1 h
  have hmarked : (pascalCase t).flatMap wordStart = (t.splitOn '_').flatMap fun w => '_' :: w := by
    rw [pascalCase, List.flatMap_assoc]
    exact List.flatMap_congr fun w hw => flatMap_wordStart_capitalised (hwords w hw)
  rw [hmarked, flatMap_cons_eq_intercalate (List.splitOn_ne_nil '_' t), List.intercalate_splitOn]

/-- **A snake-case name is read off its words put together.** -/
theorem snakeCase_pascalCase {t : Text} (h : t.isSnakeCase = true) :
    snakeCase (pascalCase t) = t := by
  rw [snakeCase, flatMap_wordStart_pascalCase h, List.tail_cons]

/-- **Different snake-case names have different methods.** -/
theorem methodName_inj {s t : Text} (hs : s.isSnakeCase = true) (ht : t.isSnakeCase = true) :
    methodName s = methodName t ↔ s = t := by
  refine ⟨fun h => ?_, fun h => by rw [h]⟩
  have hpascal : pascalCase s = pascalCase t := List.append_cancel_left h
  rw [← snakeCase_pascalCase hs, hpascal, snakeCase_pascalCase ht]

end Naming

end HandlerGen
