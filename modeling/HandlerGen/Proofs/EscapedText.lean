import HandlerGen.Proofs.FlowWriter
import HandlerGen.Proofs.Literal
import HandlerGen.Proofs.NameCharacters
import HandlerGen.Yaml.Token.Quoted
import Mathlib.Algebra.Group.Nat.Defs
import Mathlib.Data.List.TakeWhile
/-!
# Texts in escapes

A text whose characters are all written as escapes of eight digits is read
back as it is (`Quoted.read_escaped`): eight digits are enough for any
code point (`Quoted.spells_hexadecimal`), and a character is never half of
a pair. All spelt tokens are made of characters from the space to the tilde
(`Token.isBasic_spelling`), so nothing in a file is taken for a line end
and nothing is refused.
-/

namespace HandlerGen

namespace Yaml

namespace Quoted

open StringLiteral

theorem hexDigit?_digitChar {d : Nat} (h : d < 16) : hexDigit? d.digitChar = some d := by
  have hall : ∀ d < 16, hexDigit? (Nat.digitChar d) = some d := by decide
  exact hall d h

theorem hexNumber_append (acc : Nat) (t u : Text) :
    hexNumber acc (t ++ u) = hexNumber (hexNumber acc t) u := by
  induction t generalizing acc with
  | nil => rfl
  | cons c t ih => exact ih _

/-- **So many digits spell a number of so many digits.** -/
theorem spells_hexadecimal {w n : Nat} (h : n < 16 ^ (w + 1)) :
    (hexadecimal (w + 1) n).length = w + 1
      ∧ (∀ c ∈ hexadecimal (w + 1) n, (hexDigit? c).isSome = true)
      ∧ hexNumber 0 (hexadecimal (w + 1) n) = n := by
  induction w generalizing n with
  | zero =>
    rw [hexadecimal_one h]
    simp [hexNumber, hexDigit?_digitChar h]
  | succ w ih =>
    have hlast : n % 16 < 16 := Nat.mod_lt _ (by omega)
    have hfront : n / 16 < 16 ^ (w + 1) := by
      rw [Nat.div_lt_iff_lt_mul (by omega), ← Nat.pow_succ]
      exact h
    obtain ⟨hlength, hdigits, hnumber⟩ := ih hfront
    rw [hexadecimal_succ (by omega)]
    refine ⟨by rw [List.length_append, hlength, List.length_singleton], fun c hc => ?_, ?_⟩
    · rcases List.mem_append.1 hc with hc | hc
      · exact hdigits c hc
      · rw [List.mem_singleton.1 hc, hexDigit?_digitChar hlast]
        rfl
    · rw [hexNumber_append, hnumber, hexNumber, hexNumber, hexDigit?_digitChar hlast,
        Option.getD_some, Nat.div_add_mod]

theorem character_toNat (c : Char) : character c.toNat = .ok c := by
  have hbounds := toNat_bounds c
  rw [character, if_pos (by omega), if_neg (by omega), Char.ofNat_toNat]

/-- A character is read from its escape. -/
theorem escape_escaped {c : Cursor} {ch : Char} {rest : Text}
    (h : c.rest = 'U' :: (hexadecimal 8 ch.toNat ++ rest)) :
    ∃ c', escape c = .ok ([ch], c') ∧ c'.rest = rest := by
  have hbounds := toNat_bounds ch
  have hsmall : ch.toNat < 16 ^ (7 + 1) := by omega
  obtain ⟨hlength, hdigits, hnumber⟩ := spells_hexadecimal hsmall
  have hstep : c.step.rest = hexadecimal 8 ch.toNat ++ rest := by rw [Cursor.rest_step, h]; rfl
  have htake : (c.step.rest.take 8).takeWhile (fun d => (hexDigit? d).isSome)
      = hexadecimal 8 ch.toNat := by
    rw [hstep, List.take_left' hlength, List.takeWhile_eq_self_iff]
    exact hdigits
  have hread : hexDigits 8 c.step = .ok (ch.toNat, c.step.look 8) := by
    simp only [hexDigits, htake, hlength, if_true, hnumber]
  refine ⟨(c.step.look 8).skip 8, ?_, ?_⟩
  · have hshort : shortEscape? 'U' = none := by decide
    have hwidth : escapeWidth? 'U' = some 8 := by decide
    rw [escape, h]
    simp only [hshort, hwidth, hread, character_toNat, bind, Except.bind, pure, Except.pure]
  · rw [Cursor.rest_skip]
    change List.drop 8 c.step.rest = rest
    rw [hstep]
    exact List.drop_left' hlength

/-- **A text is read from its escapes.** -/
theorem read_escaped {t : Text} {fuel : Nat} {c : Cursor} {rest : Text} (hfuel : t.length < fuel)
    (h : c.rest = t.flatMap escaped ++ '"' :: rest) :
    ∃ c', read '"' fuel c = .ok (t, c') ∧ c'.rest = rest := by
  induction t generalizing fuel c with
  | nil =>
    obtain ⟨fuel, rfl⟩ : ∃ k, fuel = k + 1 := ⟨fuel - 1, by omega⟩
    refine ⟨c.step, ?_, by rw [Cursor.rest_step, h]; rfl⟩
    rw [read, h]
    rfl
  | cons ch t ih =>
    obtain ⟨fuel, rfl⟩ : ∃ k, fuel = k + 1 := ⟨fuel - 1, by omega⟩
    have hstep : c.step.rest
        = 'U' :: (hexadecimal 8 ch.toNat ++ (t.flatMap escaped ++ '"' :: rest)) := by
      rw [Cursor.rest_step, h, List.flatMap_cons, escaped]
      simp only [List.cons_append, List.append_assoc, List.tail_cons]
    obtain ⟨c₁, hescape, hc₁⟩ := escape_escaped hstep
    obtain ⟨c', hread, hc'⟩ := ih (Nat.lt_of_succ_lt_succ hfuel) hc₁
    refine ⟨c', ?_, hc'⟩
    rw [read, h]
    change (escape c.step >>= _) = _
    rw [hescape]
    change (read '"' fuel c₁ >>= _) = _
    rw [hread]
    rfl

end Quoted

/-! ## The characters of spelt tokens -/

/-- A character from the space to the tilde. -/
def isBasic (c : Char) : Bool := ' ' ≤ c && c ≤ '~'

theorem isBasic_of_isSome_hexDigit? {c : Char} (h : (Quoted.hexDigit? c).isSome = true) :
    isBasic c = true := by
  have hrange : ∀ {a b : Char}, ' ' ≤ a → b ≤ '~' → a ≤ c ∧ c ≤ b → isBasic c = true := by
    intro a b ha hb hc
    rw [isBasic, Bool.and_eq_true, decide_eq_true_iff, decide_eq_true_iff]
    exact ⟨Char.le_trans ha hc.1, Char.le_trans hc.2 hb⟩
  unfold Quoted.hexDigit? at h
  split at h
  · next hc => exact hrange (by decide) (by decide) hc
  · split at h
    · next hc => exact hrange (by decide) (by decide) hc
    · split at h
      · next hc => exact hrange (by decide) (by decide) hc
      · exact absurd h (by simp)

theorem isBasic_escaped (c : Char) : MadeOf isBasic (escaped c) := by
  have hsmall : c.toNat < 16 ^ (7 + 1) := by
    have hbounds := StringLiteral.toNat_bounds c
    omega
  obtain ⟨-, hdigits, -⟩ := Quoted.spells_hexadecimal hsmall
  intro d hd
  rcases List.mem_cons.1 hd with rfl | hd
  · decide
  · rcases List.mem_cons.1 hd with rfl | hd
    · decide
    · exact isBasic_of_isSome_hexDigit? (hdigits d hd)

/-- All tokens but words without quotes are spelt in such characters. -/
theorem Token.isBasic_spelling {t : Token} (h : ∀ u, t ≠ .scalar u true) :
    MadeOf isBasic t.spelling := by
  cases t with
  | scalar u plain =>
    cases plain with
    | true => exact absurd rfl (h u)
    | false =>
      have hescapes : MadeOf isBasic (u.flatMap escaped) := by
        intro c hc
        obtain ⟨d, -, hd⟩ := List.mem_flatMap.1 hc
        exact isBasic_escaped d c hd
      have hquote : MadeOf isBasic ['"'] := List.all_eq_true.1 (by decide)
      exact hquote.append (hescapes.append hquote)
  | _ => exact List.all_eq_true.1 rfl

theorem isBasic_spelled {us : List Token} (h : ∀ t ∈ us, MadeOf isBasic t.spelling) :
    MadeOf isBasic (spelled us) := by
  intro c hc
  obtain ⟨t, ht, hc⟩ := List.mem_flatMap.1 hc
  exact h t ht c hc

end Yaml

end HandlerGen
