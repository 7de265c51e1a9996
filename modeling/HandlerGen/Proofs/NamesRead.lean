import HandlerGen.Proofs.ObjectLiteral
/-!
# The names that a text reads

A parameter is read where `params?.` stands in front of its name. These
places are looked up in a text without regard to what else it says
(`Text.namesRead`). **Where an expression is spelt, the names that are read
are its parameters, in order** (`Expression.reads_text`).

The text is gone through piece by piece. `Reads s names` says that `names`
are read in `s` in front of any text that neither goes on with a word nor
with the mark.
-/

namespace HandlerGen

namespace Text

/-- What stands in front of a name that is read. -/
def readMark : Text := "params?."

/-- The word that a text starts with. -/
def firstWord (t : Text) : Text := t.takeWhile isIdentifierPart

/-- The words behind the marks of a text, in order. -/
def namesRead : Text → List Text
  | [] => []
  | c :: t =>
    if readMark.isPrefixOf (c :: t) then
      firstWord ((c :: t).drop readMark.length) :: namesRead t
    else namesRead t

/-- A text that neither goes on with a word nor with the mark. -/
def Stops (t : Text) : Prop := ∀ c ∈ t.head?, isIdentifierPart c = false ∧ c ∉ readMark

theorem stops_nil : Stops [] := fun _ hc => absurd hc (by simp)

theorem stops_cons {c : Char} (hc : isIdentifierPart c = false) (hmark : c ∉ readMark) (t : Text) :
    Stops (c :: t) := by
  intro d hd
  obtain rfl := Option.some.inj hd
  exact ⟨hc, hmark⟩

theorem Stops.goesOn {t : Text} (h : Stops t) : t.goesOn = false := by
  cases t with
  | nil => rfl
  | cons c t => exact (h c rfl).1

/-- A mark does not start in a text without question marks. -/
theorem readMark_not_prefix {s rest : Text} (hs : '?' ∉ s) (hrest : Stops rest) :
    ¬ readMark <+: s ++ rest := by
  intro h
  have hquestion : '?' ∈ readMark := by decide
  cases rest with
  | nil =>
    rw [List.append_nil] at h
    exact hs (h.subset hquestion)
  | cons d rest =>
    have hd : d ∉ readMark := (hrest d rfl).2
    have hstart : s ++ [d] <+: s ++ d :: rest := ⟨rest, by rw [List.append_assoc]; rfl⟩
    rcases List.prefix_or_prefix_of_prefix h hstart with hmark | hmark
    · rcases List.prefix_concat_iff.1 hmark with heq | hmark
      · exact hd (heq ▸ List.mem_append_right s (List.mem_singleton_self d))
      · exact hs (hmark.subset hquestion)
    · exact hd (hmark.subset (List.mem_append_right s (List.mem_singleton_self d)))

theorem namesRead_cons {c : Char} {t : Text} (h : ¬ readMark <+: c :: t) :
    namesRead (c :: t) = namesRead t := by
  rw [namesRead, if_neg (by rwa [List.isPrefixOf_iff_prefix])]

/-- A mark does not start in a text without its first character. -/
theorem namesRead_append_of_notMem {s : Text} (hs : 'p' ∉ s) (rest : Text) :
    namesRead (s ++ rest) = namesRead rest := by
  induction s with
  | nil => rfl
  | cons c s ih =>
    rw [List.mem_cons, not_or] at hs
    have hnone : ¬ readMark <+: c :: (s ++ rest) := by
      rintro ⟨u, hu⟩
      exact hs.1 (List.cons.inj hu).1
    rw [List.cons_append, namesRead_cons hnone, ih hs.2]

theorem namesRead_append {s rest : Text} (hs : '?' ∉ s) (hrest : Stops rest) :
    namesRead (s ++ rest) = namesRead rest := by
  induction s with
  | nil => rfl
  | cons c s ih =>
    have hnone : ¬ readMark <+: c :: (s ++ rest) := readMark_not_prefix (s := c :: s) hs hrest
    rw [List.cons_append, namesRead_cons hnone, ih fun h => hs (List.mem_cons_of_mem c h)]

end Text

open Text

/-- In a text names are read in order, in front of any text that neither
goes on with a word nor with the mark. -/
def Reads (s : Text) (names : List Text) : Prop :=
  ∀ rest, Stops rest → namesRead (s ++ rest) = names ++ namesRead rest

namespace Reads

variable {s s' : Text} {names names' : List Text}

theorem namesRead_eq (h : Reads s names) : namesRead s = names := by
  have hwhole := h [] stops_nil
  rwa [List.append_nil, namesRead, List.append_nil] at hwhole

/-- Nothing is read without a question mark. -/
theorem none (hs : '?' ∉ s) : Reads s [] := fun _ hrest => namesRead_append hs hrest

theorem append (h : Reads s names) (hstop : ∀ rest, Stops (s' ++ rest)) (h' : Reads s' names') :
    Reads (s ++ s') (names ++ names') := by
  intro rest hrest
  rw [List.append_assoc, h _ (hstop rest), h' rest hrest, List.append_assoc]

/-- A mark in front of a name is read. -/
theorem name {n : Text} (hn : n.isIdentifier = true) : Reads (readMark ++ n) [n] := by
  intro rest hrest
  have hpart : ∀ c ∈ n, isIdentifierPart c = true := fun c hc =>
    isIdentifierPart_of_isIdentifier hn hc
  have hword : firstWord (n ++ rest) = n := takeWhile_append_of_isIdentifier hn hrest.goesOn
  have hquestion : '?' ∉ n := fun h => absurd (hpart _ h) (by decide)
  have hstep : namesRead (readMark ++ (n ++ rest))
      = firstWord (n ++ rest) :: namesRead ("arams?.".toList ++ (n ++ rest)) := rfl
  rw [List.append_assoc, hstep, hword, namesRead_append_of_notMem (by decide),
    namesRead_append hquestion hrest]
  rfl

/-- Texts with commas between them are read one by one. -/
theorem intercalate {γ : Type} {gs : List γ} {text : γ → Text} {names : γ → List Text}
    (h : ∀ g ∈ gs, Reads (text g) (names g)) :
    Reads (List.intercalate ", " (gs.map text)) (gs.flatMap names) := by
  induction gs with
  | nil => exact none List.not_mem_nil
  | cons g gs ih =>
    have hfirst := h g List.mem_cons_self
    cases gs with
    | nil =>
      rw [List.map_singleton, List.intercalate_singleton, List.flatMap_cons, List.flatMap_nil,
        List.append_nil]
      exact hfirst
    | cons g' gs =>
      have hothers := ih fun g hg => h g (List.mem_cons_of_mem _ hg)
      have hcomma : Reads (", " ++ List.intercalate ", " ((g' :: gs).map text))
          ((g' :: gs).flatMap names) := by
        intro rest hrest
        rw [List.append_assoc, namesRead_append_of_notMem (by decide), hothers rest hrest]
      rw [List.map_cons, List.map_cons, List.intercalate_cons_cons, List.append_assoc,
        List.flatMap_cons]
      exact hfirst.append (fun rest => stops_cons (by decide) (by decide) _) hcomma

theorem braced {γ : Type} {gs : List γ} {text : γ → Text} {names : γ → List Text}
    (h : ∀ g ∈ gs, Reads (text g) (names g)) :
    Reads (CallObject.braced (gs.map text)) (gs.flatMap names) := by
  intro rest hrest
  have hend : Stops (" \x7d".toList ++ rest) := stops_cons (by decide) (by decide) _
  rw [CallObject.braced, List.append_assoc, List.append_assoc,
    namesRead_append_of_notMem (by decide), intercalate h _ hend,
    namesRead_append_of_notMem (by decide)]

end Reads

namespace Expression

mutual

/-- The parameters that an expression takes its values from, in order. -/
def params : Expression → List Text
  | value (.param name) => [name]
  | value .port => []
  | object properties => paramsOf properties

/-- The parameters that properties take their values from. -/
def paramsOf : List (Text × Expression) → List Text
  | [] => []
  | (_, e) :: properties => e.params ++ paramsOf properties

end

theorem params_object (properties : List (Text × Expression)) :
    (object properties).params = properties.flatMap fun p => p.2.params := by
  rw [params]
  induction properties with
  | nil => rfl
  | cons p properties ih => rw [List.flatMap_cons, ← ih]; rfl

/-- An expression whose parameters are identifiers and whose keys do not
hold a mark. -/
inductive Unmarked : Expression → Prop
  | port : Unmarked (.value .port)
  | param {name : Text} (h : name.isIdentifier = true) : Unmarked (.value (.param name))
  | object {properties : List (Text × Expression)} (keys : ∀ p ∈ properties, '?' ∉ p.1)
      (inner : ∀ p ∈ properties, Unmarked p.2) : Unmarked (.object properties)

/-- **Where an expression is spelt its parameters are read, in order.** -/
theorem reads_text {e : Expression} (h : e.Unmarked) : Reads e.text e.params := by
  induction h with
  | port => exact .none (by decide)
  | @param name h =>
    have hmark : valueText (.param name) = readMark ++ name := by
      have hparams : (readMark : Text) = ['p', 'a', 'r', 'a', 'm', 's'] ++ ['?', '.'] := by decide
      rw [hparams, List.append_assoc]
      rfl
    rw [text, hmark]
    exact .name h
  | @object properties keys inner ih =>
    by_cases hne : properties = []
    · subst hne
      exact .none (by decide)
    · rw [text_object hne, params_object]
      refine .braced fun p hp => ?_
      intro rest hrest
      have hstop : Stops (": ".toList ++ (p.2.text ++ rest)) :=
        stops_cons (by decide) (by decide) _
      rw [propertyText, List.append_assoc, List.append_assoc, namesRead_append (keys p hp) hstop,
        namesRead_append_of_notMem (by decide), ih p hp rest hrest]

end Expression

end HandlerGen
