import HandlerGen.CallObject
import HandlerGen.Proofs.NameCharacters
/-!
# Building the object of a remote call

Adding a parameter to the literal puts one property at the top or one
field into the object at the key `arg` (`CallObject.add_cases`), so what
all properties have in common is an invariant of the whole list of
parameters (`CallObject.isPlain_addAll`). Here it is the characters: the
literal is made of those of names and of the marks between them
(`Parameters.isObject_of_expression`), and what a method reads is among
the names of its parameters (`Parameters.sublist_fieldsOf`).
-/

namespace HandlerGen

/-- A rule for a field was spelt with an identifier. -/
theorem Rule.readsAsIdentifier_of_read {param text field : Text}
    (h : Rule.read param text = .ok (.argField field)) : field.readsAsIdentifier = true := by
  unfold Rule.read at h
  split at h
  · exact absurd h (by simp)
  · exact absurd h (by simp)
  · exact absurd h (by simp)
  · split at h
    · next hfield =>
      obtain rfl := Rule.argField.inj (Except.ok.inj h)
      exact hfield
    · exact absurd h (by simp)
  · exact absurd h (by simp)

namespace CallObject

/-- The property at the top that a rule asks for, if it asks for one. -/
def topProperty? (name : Text) : Rule → Option (Text × PropertyValue)
  | .passthrough => some (name, .param name)
  | .port => some (name, .port)
  | .arg => some (argKey, .param name)
  | .argField _ => none

/-- **What adding a parameter does**: it puts one property at the top, or
one field into the object at the key `arg`, which no parameter has
then. -/
theorem add_cases {o o' : CallObject} {name text : Text} (h : o.add name text = .ok o') :
    ∃ rule, Rule.read name text = .ok rule ∧
      ((∃ p, topProperty? name rule = some p ∧ o'.top = o.top ++ [p] ∧ o'.nested = o.nested
          ∧ (needsArg name rule = true → o.owner = none ∧ o.nested = [])
          ∧ o'.owner = if needsArg name rule then some name else o.owner)
        ∨ ∃ field, rule = .argField field ∧ o.owner = none
          ∧ o' = { o with nested := o.nested ++ [(field, name)] }) := by
  unfold add at h
  cases hrule : Rule.read name text with
  | error e =>
    rw [hrule] at h
    exact absurd h (by simp)
  | ok rule =>
    rw [hrule] at h
    refine ⟨rule, rfl, ?_⟩
    by_cases hclash : (needsArg name rule && (o.owner.isSome || !o.nested.isEmpty)) = true
    · simp only [hclash, if_true] at h
      exact absurd h (by simp)
    · have hfree : needsArg name rule = true → o.owner = none ∧ o.nested = [] := by
        intro hneeds
        simpa [hneeds] using hclash
      simp only [hclash, Bool.false_eq_true, if_false] at h
      cases rule with
      | passthrough =>
        obtain rfl := Except.ok.inj h
        exact .inl ⟨_, rfl, rfl, rfl, hfree, rfl⟩
      | port =>
        obtain rfl := Except.ok.inj h
        exact .inl ⟨_, rfl, rfl, rfl, hfree, rfl⟩
      | arg =>
        obtain rfl := Except.ok.inj h
        exact .inl ⟨_, rfl, rfl, rfl, hfree, rfl⟩
      | argField field =>
        cases howner : o.owner with
        | some other => simp [howner] at h
        | none =>
          simp only [howner] at h
          obtain rfl := Except.ok.inj h
          exact .inr ⟨field, rfl, rfl, rfl⟩

/-! ## The characters of the literal -/

/-- A character that the literal may have. -/
def isObjectCharacter (c : Char) : Bool :=
  Text.isNameCharacter c || [' ', '\x7b', '\x7d', ',', ':', '?', '.'].contains c

/-- A text that is made of the characters of literals. -/
abbrev IsObject (t : Text) : Prop := MadeOf isObjectCharacter t

/-- Names are made of them. -/
theorem isObject_of_isName {t : Text} (h : t.IsName) : IsObject t := by
  intro c hc
  rw [isObjectCharacter, h c hc, Bool.true_or]

/-- Properties in braces are made of the characters of literals if the
properties are. -/
theorem isObject_braced {ps : List Text} (h : ∀ p ∈ ps, IsObject p) : IsObject (braced ps) :=
  ((MadeOf.ofList (by decide)).append
    (MadeOf.intercalate (MadeOf.ofList (by decide)) h)).append (MadeOf.ofList (by decide))

/-- A literal under construction whose properties are made of the
characters of literals. -/
structure IsPlain (o : CallObject) : Prop where
  top : ∀ p ∈ o.top, IsObject (propertyText p)
  nested : ∀ p ∈ o.nested, IsObject (fieldText p)

theorem isObject_fieldText {key name : Text} (hkey : key.IsName) (hname : name.IsName) :
    IsObject (fieldText (key, name)) :=
  ((isObject_of_isName hkey).append (MadeOf.ofList (by decide))).append
    (isObject_of_isName hname)

theorem isObject_propertyText {name : Text} {rule : Rule} {p : Text × PropertyValue}
    (hname : name.IsName) (h : topProperty? name rule = some p) : IsObject (propertyText p) := by
  cases rule with
  | passthrough =>
    obtain rfl := Option.some.inj h
    exact isObject_fieldText hname hname
  | port =>
    obtain rfl := Option.some.inj h
    exact (isObject_of_isName hname).append (MadeOf.ofList (by decide))
  | arg =>
    obtain rfl := Option.some.inj h
    exact isObject_fieldText (MadeOf.ofList (by decide)) hname
  | argField field => exact absurd h (by simp [topProperty?])

/-- Adding a parameter keeps to the characters of literals. -/
theorem isPlain_add {o o' : CallObject} {name text : Text} (h : o.add name text = .ok o')
    (hname : name.IsName) (ho : o.IsPlain) : o'.IsPlain := by
  obtain ⟨rule, hrule, ⟨p, hp, htop, hnested, -⟩ | ⟨field, rfl, -, rfl⟩⟩ := add_cases h
  · refine ⟨fun q hq => ?_, fun q hq => ho.nested q (hnested ▸ hq)⟩
    rw [htop, List.mem_append, List.mem_singleton] at hq
    rcases hq with hq | rfl
    · exact ho.top q hq
    · exact isObject_propertyText hname hp
  · refine ⟨ho.top, fun q hq => ?_⟩
    rcases List.mem_append.1 hq with hq | hq
    · exact ho.nested q hq
    · rw [List.mem_singleton] at hq
      subst hq
      exact isObject_fieldText
        (Text.isName_of_readsAsIdentifier (Rule.readsAsIdentifier_of_read hrule)) hname

/-- **So does adding a list of parameters.** -/
theorem isPlain_addAll {o o' : CallObject} {es : List (Text × Text)} (h : o.addAll es = .ok o')
    (hes : ∀ e ∈ es, e.1.IsName) (ho : o.IsPlain) : o'.IsPlain := by
  induction es generalizing o with
  | nil =>
    obtain rfl := Except.ok.inj h
    exact ho
  | cons e es ih =>
    obtain ⟨name, text⟩ := e
    rw [addAll] at h
    split at h
    · exact absurd h (by simp)
    · next o₁ hadd =>
      have ho₁ := isPlain_add hadd (hes _ List.mem_cons_self) ho
      exact ih h (fun e he => hes e (List.mem_cons_of_mem _ he)) ho₁

/-- The text of the literal is made of the characters of literals. -/
theorem isObject_text {o : CallObject} (ho : o.IsPlain) : IsObject o.text := by
  unfold text
  split
  · exact MadeOf.ofList (by decide)
  · refine isObject_braced fun p hp => ?_
    rcases List.mem_append.1 hp with hp | hp
    · obtain ⟨q, hq, rfl⟩ := List.mem_map.1 hp
      exact ho.top q hq
    · split at hp
      · exact absurd hp List.not_mem_nil
      · rw [List.mem_singleton] at hp
        subst hp
        refine (MadeOf.ofList (by decide)).append (isObject_braced fun p hp => ?_)
        obtain ⟨q, hq, rfl⟩ := List.mem_map.1 hp
        exact ho.nested q hq

end CallObject

namespace Parameters

/-- **The object that is passed is made of the characters of literals.** -/
theorem isObject_of_expression {ps : Parameters} {e : Text} (h : ps.expression = .ok e)
    (hps : ∀ p ∈ ps.entries.map Prod.fst, p.readsAsIdentifier = true) :
    CallObject.IsObject e := by
  unfold expression at h
  cases ho : CallObject.ofParameters ps with
  | error e =>
    rw [ho] at h
    exact absurd h (by simp [Except.map])
  | ok o =>
    rw [ho] at h
    obtain rfl := Except.ok.inj h
    refine CallObject.isObject_text (CallObject.isPlain_addAll ho (fun e he => ?_) ⟨?_, ?_⟩)
    · exact Text.isName_of_readsAsIdentifier (hps e.1 (List.mem_map_of_mem he))
    · exact fun p hp => absurd hp List.not_mem_nil
    · exact fun p hp => absurd hp List.not_mem_nil

/-- What a method reads is among the names of a list of entries. -/
theorem sublist_fieldsOf {es : List (Text × Text)} {fs : List Text} (h : fieldsOf es = .ok fs) :
    fs.Sublist (es.map Prod.fst) := by
  induction es generalizing fs with
  | nil =>
    obtain rfl := Except.ok.inj h
    exact List.Sublist.refl _
  | cons e es ih =>
    obtain ⟨name, text⟩ := e
    rw [fieldsOf] at h
    split at h
    · exact absurd h (by simp)
    · split at h
      · exact absurd h (by simp)
      · next names hnames =>
        obtain rfl := Except.ok.inj h
        split
        · exact (ih hnames).cons name
        · exact (ih hnames).cons_cons name

end Parameters

end HandlerGen
