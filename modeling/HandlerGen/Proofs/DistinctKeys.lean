import HandlerGen.Proofs.CallReading
/-!
# Keys that stand once

An object literal with a key that stands twice is refused by the compiler
of the generated code, and where it is not, the second value replaces the
first and a parameter is lost. At the top no key stands twice, since
parameters that contend for `arg` are refused. The fields of the object at
the key `arg` are not compared with each other: **a key stands twice just
if two parameters fill the same field** (`Parameters.distinctKeys_iff`),
and such parameters are accepted
(`Parameters.not_distinctKeys_sharedField`).
-/

namespace HandlerGen

namespace Expression

/-- The keys of an object. -/
def keys : Expression → List Text
  | value _ => []
  | object properties => properties.map Prod.fst

/-- No object has a key twice, neither at the top nor further in. -/
inductive DistinctKeys : Expression → Prop
  | value (v : PropertyValue) : DistinctKeys (.value v)
  | object {properties : List (Text × Expression)} (keys : (properties.map Prod.fst).Nodup)
      (inner : ∀ p ∈ properties, DistinctKeys p.2) : DistinctKeys (.object properties)

/-- An object of values has distinct keys just if its own are. -/
theorem distinctKeys_values_iff {α : Type} {key : α → Text} {v : α → PropertyValue} {as : List α} :
    (object (as.map fun a => (key a, value (v a)))).DistinctKeys ↔ (as.map key).Nodup := by
  have hkeys : (as.map fun a => (key a, value (v a))).map Prod.fst = as.map key := by
    rw [List.map_map]
    rfl
  constructor
  · intro h
    cases h with
    | object hnodup => exact hkeys ▸ hnodup
  · intro h
    refine .object (hkeys ▸ h) fun p hp => ?_
    obtain ⟨a, -, rfl⟩ := List.mem_map.1 hp
    exact .value _

end Expression

namespace CallObject

variable {es : List (Text × Text)}

/-- The keys that are asked for are those at the top. -/
theorem keys_asked (es : List (Text × Text)) : (asked es).keys = topKeys es := by
  rw [asked, Expression.keys, topKeys, List.map_append, List.map_map, apply_ite (List.map _),
    List.isEmpty_map]
  rfl

/-- What is asked for has distinct keys just if those at the top are and
no field is asked for twice. -/
theorem distinctKeys_asked_iff :
    (asked es).DistinctKeys ↔ (topKeys es).Nodup ∧ ((es.filterMap fieldOf).map Prod.fst).Nodup := by
  have hfields : (Expression.object ((es.filterMap fieldOf).map fun p =>
      (p.1, .value (.param p.2)))).DistinctKeys ↔ ((es.filterMap fieldOf).map Prod.fst).Nodup :=
    Expression.distinctKeys_values_iff
  rw [← hfields, ← keys_asked]
  constructor
  · intro h
    obtain ⟨hkeys, hinner⟩ : (asked es).keys.Nodup ∧ ∀ p ∈ ((es.filterMap topOf).map fun p =>
        (p.1, Expression.value p.2)) ++ _, Expression.DistinctKeys p.2 := by
      cases h with
      | object hkeys hinner => exact ⟨hkeys, hinner⟩
    refine ⟨hkeys, ?_⟩
    by_cases hnone : es.filterMap fieldOf = []
    · rw [hnone]
      exact .object List.nodup_nil fun p hp => absurd hp List.not_mem_nil
    · refine hinner (argKey, _) (List.mem_append_right _ ?_)
      rw [if_neg (by simpa using hnone)]
      exact List.mem_singleton_self _
  · rintro ⟨hkeys, hnested⟩
    refine .object hkeys fun p hp => ?_
    rcases List.mem_append.1 hp with hp | hp
    · obtain ⟨q, -, rfl⟩ := List.mem_map.1 hp
      exact .value _
    · split at hp
      · exact absurd hp List.not_mem_nil
      · obtain rfl := List.mem_singleton.1 hp
        exact hnested

end CallObject

namespace Parameters

open CallObject

variable {ps : Parameters} {t : Text}

/-- Two parameters have a rule for the same field. -/
def SharesField (ps : Parameters) : Prop :=
  ∃ e ∈ ps.entries, ∃ e' ∈ ps.entries, e.1 ≠ e'.1 ∧ ∃ field,
    Rule.read e.1 e.2 = .ok (.argField field) ∧ Rule.read e'.1 e'.2 = .ok (.argField field)

/-- Fields are distinct unless two parameters share one. -/
theorem nodup_fields_iff (hread : ∀ e ∈ ps.entries, ∃ rule, Rule.read e.1 e.2 = .ok rule) :
    ((ps.entries.filterMap fieldOf).map Prod.fst).Nodup ↔ ¬ ps.SharesField := by
  have hfield : ∀ {e field}, Rule.read e.1 e.2 = .ok (.argField field) →
      fieldOf e = some (field, e.1) := fun h => (asks_of_read h).2
  constructor
  · rintro hnodup ⟨e, he, e', he', hne, field, hrule, hrule'⟩
    have hmem : (field, e.1) ∈ ps.entries.filterMap fieldOf :=
      List.mem_filterMap.2 ⟨e, he, hfield hrule⟩
    have hmem' : (field, e'.1) ∈ ps.entries.filterMap fieldOf :=
      List.mem_filterMap.2 ⟨e', he', hfield hrule'⟩
    have hsame : (field, e.1) = (field, e'.1) := List.inj_on_of_nodup_map hnodup hmem hmem' rfl
    exact hne (Prod.mk.inj hsame).2
  · intro hshares
    -- parameters that stand at different places have different names
    have hnames : ps.entries.Pairwise fun e e' => e.1 ≠ e'.1 := List.pairwise_map.1 ps.nodup
    rw [List.Nodup, List.pairwise_map, List.pairwise_filterMap]
    refine hnames.imp_of_mem fun {e e'} he he' hne p hp p' hp' heq => hshares ?_
    obtain ⟨rule, hrule⟩ := hread e he
    obtain ⟨rule', hrule'⟩ := hread e' he'
    obtain ⟨rfl, -⟩ := read_of_fieldOf hrule hp
    obtain ⟨rfl, -⟩ := read_of_fieldOf hrule' hp'
    exact ⟨e, he, e', he', hne, p.1, hrule, heq ▸ hrule'⟩

/-- **A key stands twice in what is passed just if two parameters share a
field.** At the top no key does. What is passed is the spelling of the
properties that the rules ask for, and it is read as these where no name
breaks the line. -/
theorem distinctKeys_iff (h : ps.expression = .ok t) :
    t = (asked ps.entries).text
    ∧ (asked ps.entries).keys.Nodup
    ∧ ((asked ps.entries).DistinctKeys ↔ ¬ ps.SharesField)
    ∧ ((∀ e ∈ ps.entries, e.1.isIdentifier = true) →
      (∀ p ∈ ps.entries.filterMap fieldOf, '\n' ∉ p.1) →
      Expression.read t = some (asked ps.entries)) := by
  have htext : t = (asked ps.entries).text := eq_text_asked h
  obtain ⟨o, ho, rfl⟩ := expression_eq_ok_iff.1 h
  obtain ⟨hread, hkeys⟩ := exists_ofParameters_iff.1 ⟨o, ho⟩
  refine ⟨htext, ?_, ?_, read_text_of_ofParameters ho⟩
  · rwa [keys_asked]
  · rw [distinctKeys_asked_iff, nodup_fields_iff hread]
    exact and_iff_right hkeys

/-- Two parameters for one field. -/
def sharedField : Parameters := .ofPairs [("a", "arg.x"), ("b", "arg.x")]

/-- **A key can stand twice**: where two parameters share a field, neither
is refused. -/
theorem not_distinctKeys_sharedField :
    ∃ e, sharedField.expression
        = .ok "\x7b arg: \x7b x: params?.a, x: params?.b \x7d \x7d"
      ∧ Expression.read "\x7b arg: \x7b x: params?.a, x: params?.b \x7d \x7d" = some e
      ∧ ¬ e.DistinctKeys := by
  refine ⟨asked sharedField.entries, rfl, rfl, fun h => ?_⟩
  have hfields := (distinctKeys_asked_iff.1 h).2
  exact absurd hfields (by decide)

/-- Two parameters with fields of their own, and two that share one. -/
theorem distinctKeys_windowSize :
    windowSize.expression
        = .ok "\x7b port: port, arg: \x7b width: params?.width, height: params?.height \x7d \x7d"
      ∧ (asked windowSize.entries).DistinctKeys
      ∧ sharedField.expression = .ok "\x7b arg: \x7b x: params?.a, x: params?.b \x7d \x7d"
      ∧ ¬ (asked sharedField.entries).DistinctKeys := by
  have hwindow : windowSize.expression
      = .ok "\x7b port: port, arg: \x7b width: params?.width, height: params?.height \x7d \x7d" :=
    rfl
  have hshared : sharedField.expression
      = .ok "\x7b arg: \x7b x: params?.a, x: params?.b \x7d \x7d" := rfl
  obtain ⟨-, -, hiff, -⟩ := distinctKeys_iff hwindow
  obtain ⟨-, -, hiff', -⟩ := distinctKeys_iff hshared
  have hread : ∀ e ∈ windowSize.entries, ∃ rule, Rule.read e.1 e.2 = .ok rule :=
    (exists_ofParameters_iff.1 ⟨_, rfl⟩).1
  have hapart : ¬ windowSize.SharesField := (nodup_fields_iff hread).1 (by decide)
  have hshares : sharedField.SharesField :=
    ⟨("a", "arg.x"), by decide, ("b", "arg.x"), by decide, by decide, "x", rfl, rfl⟩
  exact ⟨hwindow, hiff.2 hapart, hshared, fun h => hiff'.1 h hshares⟩

end Parameters

end HandlerGen
