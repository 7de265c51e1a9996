import HandlerGen.Proofs.FlowLexing
/-!
# Spelt tokens are read

A lexer inside a flow collection reads the tokens of an item off their
spelling (`Spells`). This goes through rows of tokens (`Spells.append`)
and from what is in a collection to the collection, at any depth
(`Flow.Collection.spells`). So **a text that is the spelling of a
collection has its tokens** (`Flow.Collection.tokens_ofText`).

A truth value has no quotes to end it, so it is read with the comma behind
it.
-/

namespace HandlerGen

namespace Yaml

/-- Inside a flow collection a lexer reads these tokens off their
spelling. -/
structure Spells (ts : List Token) : Prop where
  basic : ∀ t ∈ ts, MadeOf isBasic t.spelling
  length_le : ts.length ≤ (spelled ts).length
  leads : ∀ (s : Lexer) (before : List Token) (depth : Nat) (rest : Text),
    s.Stands before (depth + 1) (spelled ts ++ rest) →
      ∃ s', s'.Stands (before ++ ts) (depth + 1) rest ∧ s.Leads ts.length s'

namespace Spells

variable {ts us : List Token}

theorem nil : Spells [] where
  basic _ hc := absurd hc List.not_mem_nil
  length_le := Nat.le_refl 0
  leads s before _ _ h := ⟨s, (List.append_nil before).symm ▸ h, fun _ => rfl⟩

/-- **Tokens are read one after the other.** -/
theorem append (h : Spells ts) (h' : Spells us) : Spells (ts ++ us) where
  basic := List.forall_mem_append.2 ⟨h.basic, h'.basic⟩
  length_le := by
    rw [spelled_append, List.length_append, List.length_append]
    exact Nat.add_le_add h.length_le h'.length_le
  leads s before depth rest hs := by
    rw [spelled_append, List.append_assoc] at hs
    obtain ⟨s₁, hs₁, hleads₁⟩ := h.leads s before depth _ hs
    obtain ⟨s₂, hs₂, hleads₂⟩ := h'.leads s₁ _ depth _ hs₁
    rw [List.append_assoc] at hs₂
    rw [List.length_append]
    exact ⟨s₂, hs₂, hleads₁.trans hleads₂⟩

theorem flatMap {γ : Type} {f : γ → List Token} {gs : List γ} (h : ∀ g ∈ gs, Spells (f g)) :
    Spells (gs.flatMap f) := by
  induction gs with
  | nil => exact nil
  | cons g gs ih =>
    rw [List.flatMap_cons]
    exact (h g List.mem_cons_self).append (ih fun g hg => h g (List.mem_cons_of_mem _ hg))

theorem flowEntry : Spells [.flowEntry] where
  basic t ht := Token.isBasic_spelling (by simp_all)
  length_le := Nat.le_refl 1
  leads _ _ _ _ h := Lexer.leads_flowEntry h

theorem text (t : Text) : Spells (Flow.text t) where
  basic t ht := Token.isBasic_spelling (by simp_all [Flow.text])
  length_le := by
    change 1 ≤ (spelled [.scalar t false]).length
    simp [spelled, Token.spelling]
  leads s before depth rest h := by
    have hstands : s.Stands before (depth + 1) ('"' :: (t.flatMap escaped ++ '"' :: rest)) := by
      simpa [spelled, Flow.text, Token.spelling] using h
    obtain ⟨s', hs', -, hleads⟩ := Lexer.leads_quoted hstands
    exact ⟨s', hs', hleads⟩

/-- A truth value is read with the comma behind it. -/
theorem flag (b : Bool) : Spells (Flow.item (Flow.flag b)) where
  basic t ht := by
    rcases List.mem_cons.1 ht with rfl | ht
    · cases b <;> exact List.all_eq_true.1 (by decide)
    · exact flowEntry.basic t ht
  length_le := by cases b <;> decide
  leads s before depth rest h := by
    have hstands : s.Stands before (depth + 1) (flagWord b ++ ',' :: rest) := by
      simpa [spelled, Flow.item, Flow.flag, Token.spelling] using h
    obtain ⟨s₁, hs₁, hleads₁⟩ := Lexer.leads_flag hstands
    obtain ⟨s₂, hs₂, hleads₂⟩ := Lexer.leads_flowEntry hs₁
    rw [List.append_assoc] at hs₂
    exact ⟨s₂, hs₂, hleads₁.trans hleads₂⟩

/-- A key is announced, so it may be as long as it is. -/
theorem key (k : Text) : Spells [.key, .scalar k false, .value] where
  basic := by
    rw [List.forall_mem_cons, List.forall_mem_cons, List.forall_mem_singleton]
    exact ⟨Token.isBasic_spelling (by simp), Token.isBasic_spelling (by simp),
      Token.isBasic_spelling (by simp)⟩
  length_le := by
    simp [spelled, Token.spelling]
  leads s before depth rest h := by
    have hstands : s.Stands before (depth + 1)
        ('?' :: '"' :: (k.flatMap escaped ++ '"' :: ':' :: rest)) := by
      simpa [spelled, Token.spelling] using h
    obtain ⟨s₁, hs₁, hkey₁, hleads₁⟩ := Lexer.leads_key hstands
    obtain ⟨s₂, hs₂, hkey₂, hleads₂⟩ := Lexer.leads_quoted hs₁
    obtain ⟨s₃, hs₃, hleads₃⟩ := Lexer.leads_value hs₂ (hkey₂ hkey₁)
    rw [List.append_assoc, List.append_assoc] at hs₃
    exact ⟨s₃, hs₃, (hleads₁.trans hleads₂).trans hleads₃⟩

theorem entry {k : Text} {v : List Token} (h : Spells (Flow.item v)) :
    Spells (Flow.entry (k, v)) := (key k).append h

end Spells

/-- The tokens of a flow collection. -/
inductive Flow.Collection : List Token → List Token → Prop
  | sequence (ts : List Token) :
    Collection (.flowSequenceStart :: (ts ++ [.flowSequenceEnd])) ts
  | mapping (ts : List Token) :
    Collection (.flowMappingStart :: (ts ++ [.flowMappingEnd])) ts

namespace Flow.Collection

variable {ts us : List Token}

/-- Its spelling is that of what is in it between two brackets. -/
theorem cases_spelled (h : Collection ts us) :
    ∃ first start last stop, Lexer.Opens first start ∧ Lexer.Closes last stop
      ∧ ts = start :: (us ++ [stop]) ∧ spelled ts = first :: (spelled us ++ [last]) := by
  cases h with
  | sequence => exact ⟨_, _, _, _, .sequence, .sequence, rfl, by simp [spelled, Token.spelling]⟩
  | mapping => exact ⟨_, _, _, _, .mapping, .mapping, rfl, by simp [spelled, Token.spelling]⟩

theorem basic (h : Collection ts us) (hus : Spells us) : ∀ t ∈ ts, MadeOf isBasic t.spelling := by
  cases h <;>
  · rw [List.forall_mem_cons, List.forall_mem_append, List.forall_mem_singleton]
    exact ⟨Token.isBasic_spelling (by simp), hus.basic, Token.isBasic_spelling (by simp)⟩

theorem length_le (h : Collection ts us) (hus : Spells us) : ts.length ≤ (spelled ts).length := by
  obtain ⟨first, start, last, stop, -, -, rfl, htext⟩ := h.cases_spelled
  rw [htext]
  simpa using hus.length_le

/-- **A collection is read at any depth**, if what is in it is read. -/
theorem leads (h : Collection ts us) (hus : Spells us) {s : Lexer} {before : List Token}
    {depth : Nat} {rest : Text} (hs : s.Stands before depth (spelled ts ++ rest)) :
    ∃ s', s'.Stands (before ++ ts) depth rest ∧ s.Leads ts.length s' := by
  obtain ⟨first, start, last, stop, hfirst, hlast, rfl, htext⟩ := h.cases_spelled
  rw [htext, List.cons_append, List.append_assoc] at hs
  obtain ⟨s₁, hs₁, hleads₁⟩ := Lexer.leads_opens hs hfirst
  obtain ⟨s₂, hs₂, hleads₂⟩ := hus.leads s₁ _ depth _ hs₁
  obtain ⟨s₃, hs₃, hleads₃⟩ := Lexer.leads_closes hs₂ hlast
  refine ⟨s₃, ?_, ?_⟩
  · simpa using hs₃
  · have hlength : (start :: (us ++ [stop])).length = 1 + us.length + 1 := by
      simp [Nat.add_comm]
    rw [hlength]
    exact (hleads₁.trans hleads₂).trans hleads₃

/-- So it may stand in another one. -/
theorem spells (h : Collection ts us) (hus : Spells us) : Spells (item ts) :=
  Spells.append ⟨h.basic hus, h.length_le hus, fun _ _ _ _ hs => h.leads hus hs⟩ Spells.flowEntry

/-- **A text that is the spelling of a collection has its tokens.** -/
theorem tokens_ofText (h : Collection ts us) (hus : Spells us) :
    (Token.ofText (spelled ts)).tokens.map Prod.fst = ts ++ [.streamEnd] := by
  have hstart : Lexer.Stands { cursor := { rest := spelled ts } } [] 0 (spelled ts ++ []) :=
    { tokens := rfl
      depth := rfl
      rest := (List.append_nil _).symm
      indent := rfl
      outerIndents := rfl
      pending := Lexer.optional_none
      outerPending := fun _ hp => absurd hp List.not_mem_nil }
  obtain ⟨s, hs, hleads⟩ := h.leads hus hstart
  have hfuel : (spelled ts).length + 1 = (spelled ts).length - ts.length + 1 + ts.length := by
    have hlength := h.length_le hus
    omega
  rw [Token.ofText, hfuel, hleads]
  exact Lexer.run_of_stands hs _

end Flow.Collection

end Yaml

end HandlerGen
