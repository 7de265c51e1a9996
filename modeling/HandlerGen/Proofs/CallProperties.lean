import HandlerGen.Proofs.CallObject
import Mathlib.Data.List.Nodup
/-!
# The properties that rules ask for

Each rule asks for one property of the literal: at the top
(`CallObject.topOf`) or in the object at the key `arg`
(`CallObject.fieldOf`). A literal that is accepted holds just these, in
the order of the parameters (`CallObject.addAll_eq_ok`).

Adding parameters one by one asks of each whether the key `arg` is still
free. What comes out of it does not depend on the order: **parameters are
refused just if a text is no rule or a key would stand twice at the top**
(`Parameters.rejected_iff`), so in another order they are refused or
accepted alike, and the literal has the same properties.
-/

namespace HandlerGen

namespace CallObject

/-- The property at the top that a parameter and its rule ask for. -/
def topOf (e : Text × Text) : Option (Text × PropertyValue) :=
  if e.2 = [] then some (e.1, .param e.1)
  else if e.2 = "port".toList then some (e.1, .port)
  else if e.2 = argKey then some (argKey, .param e.1)
  else none

/-- The field of the object at the key `arg` that they ask for. -/
def fieldOf (e : Text × Text) : Option (Text × Text) :=
  if "arg.".toList.isPrefixOf e.2 then some (e.2.drop 4, e.1) else none

/-- The keys at the top of the literal that has all the properties that
some parameters ask for. The fields are together in one more property at
the key `arg`. -/
def topKeys (es : List (Text × Text)) : List Text :=
  (es.filterMap topOf).map Prod.fst ++ if (es.filterMap fieldOf).isEmpty then [] else [argKey]

/-- What a rule that can be read asks for. -/
theorem asks_of_read {name text : Text} {rule : Rule} (h : Rule.read name text = .ok rule) :
    topOf (name, text) = topProperty? name rule
      ∧ fieldOf (name, text) = rule.field?.map fun field => (field, name) := by
  unfold Rule.read at h
  split at h
  · obtain rfl := Except.ok.inj h
    exact ⟨rfl, rfl⟩
  · obtain rfl := Except.ok.inj h
    exact ⟨rfl, rfl⟩
  · obtain rfl := Except.ok.inj h
    exact ⟨rfl, rfl⟩
  · next field =>
    split at h
    · obtain rfl := Except.ok.inj h
      refine ⟨?_, rfl⟩
      simp [topOf, topProperty?, argKey]
    · exact absurd h (by simp)
  · exact absurd h (by simp)

/-- **A rule that can be read asks for one property**, at the top or
not. -/
theorem length_asked {es : List (Text × Text)}
    (h : ∀ e ∈ es, ∃ rule, Rule.read e.1 e.2 = .ok rule) :
    (es.filterMap topOf).length + (es.filterMap fieldOf).length = es.length := by
  induction es with
  | nil => rfl
  | cons e es ih =>
    obtain ⟨rule, hrule⟩ := h e List.mem_cons_self
    obtain ⟨htop, hfield⟩ := asks_of_read hrule
    have hrest := ih fun e he => h e (List.mem_cons_of_mem _ he)
    rw [List.filterMap_cons, List.filterMap_cons, htop, hfield, List.length_cons]
    cases rule <;> simp only [topProperty?, Rule.field?, Option.map, List.length_cons] <;> omega

/-! ## What is accepted -/

variable {o o' : CallObject} {es : List (Text × Text)}

/-- **A literal has the properties that its parameters ask for.** -/
theorem addAll_eq_ok (h : o.addAll es = .ok o') :
    (∀ e ∈ es, ∃ rule, Rule.read e.1 e.2 = .ok rule)
      ∧ o'.top = o.top ++ es.filterMap topOf ∧ o'.nested = o.nested ++ es.filterMap fieldOf := by
  induction es generalizing o with
  | nil =>
    obtain rfl := Except.ok.inj h
    simp
  | cons e es ih =>
    obtain ⟨name, text⟩ := e
    rw [addAll] at h
    split at h
    · exact absurd h (by simp)
    · next o₁ hadd =>
      obtain ⟨hread, htop, hnested⟩ := ih h
      obtain ⟨rule, hrule, hcase⟩ := add_cases hadd
      obtain ⟨hasksTop, hasksField⟩ := asks_of_read hrule
      refine ⟨List.forall_mem_cons.2 ⟨⟨rule, hrule⟩, hread⟩, ?_⟩
      rw [htop, hnested, List.filterMap_cons, List.filterMap_cons, hasksTop, hasksField]
      rcases hcase with ⟨p, hp, htop₁, hnested₁, -⟩ | ⟨field, rfl, -, rfl⟩
      · have hnone : rule.field? = none := by
          cases rule with
          | argField field => exact absurd hp (by simp [topProperty?])
          | _ => rfl
        simp [hp, hnone, htop₁, hnested₁]
      · simp [topProperty?, Rule.field?]

/-! ## Who gets the key `arg` -/

/-- Whether a parameter asks for the key `arg` at the top. -/
def asksForArg (e : Text × Text) : Bool := (topOf e).any (·.1 == argKey)

/-- How many parties there are for the key `arg` of a literal and of
parameters that are still to be added: its owner, each parameter that asks
for the key, and all the fields together. -/
def parties (o : CallObject) (es : List (Text × Text)) : Nat :=
  o.owner.toList.length + es.countP asksForArg
    + if (o.nested ++ es.filterMap fieldOf).isEmpty then 0 else 1

theorem asksForArg_of_read {name text : Text} {rule : Rule} (h : Rule.read name text = .ok rule) :
    asksForArg (name, text) = needsArg name rule := by
  rw [asksForArg, (asks_of_read h).1]
  cases rule <;> simp [topProperty?, needsArg, beq_eq_decide]

/-- Adding a parameter leaves the count of parties as it is. -/
theorem parties_add {name text : Text} (h : o.add name text = .ok o') :
    o'.parties es = o.parties ((name, text) :: es) := by
  obtain ⟨rule, hrule, hcase⟩ := add_cases h
  obtain ⟨-, hfield⟩ := asks_of_read hrule
  rw [parties, parties, List.countP_cons, List.filterMap_cons, asksForArg_of_read hrule, hfield]
  rcases hcase with ⟨p, hp, -, hnested, hfree, howner⟩ | ⟨field, rfl, howner, rfl⟩
  · have hnone : rule.field? = none := by
      cases rule with
      | argField field => exact absurd hp (by simp [topProperty?])
      | _ => rfl
    rw [howner, hnested, hnone]
    by_cases hneeds : needsArg name rule = true
    · rw [(hfree hneeds).1]
      simp [hneeds]
      omega
    · simp [hneeds]
  · simp [needsArg, Rule.field?]

/-- Where one has been added, the key `arg` still goes to one party at
most. -/
theorem parties_le_one_of_add {name text : Text} (h : o.add name text = .ok o')
    (ho : o.parties [] ≤ 1) : o'.parties [] ≤ 1 := by
  obtain ⟨rule, hrule, hcase⟩ := add_cases h
  rcases hcase with ⟨p, -, -, hnested, hfree, howner⟩ | ⟨field, rfl, howner, rfl⟩
  · by_cases hneeds : needsArg name rule = true
    · obtain ⟨hnone, hempty⟩ := hfree hneeds
      simp [parties, howner, hneeds, hnested, hempty]
    · rw [if_neg hneeds] at howner
      rwa [parties, howner, hnested, ← parties]
  · simp [parties, howner]

/-- A parameter can be added if the key `arg` goes to one party at
most. -/
theorem exists_add {name text : Text} {rule : Rule} (hrule : Rule.read name text = .ok rule)
    (h : o.parties ((name, text) :: es) ≤ 1) : ∃ o', o.add name text = .ok o' := by
  obtain ⟨-, hfield⟩ := asks_of_read hrule
  rw [parties, List.countP_cons, List.filterMap_cons, asksForArg_of_read hrule, hfield] at h
  have hfree : (needsArg name rule && (o.owner.isSome || !o.nested.isEmpty)) = false := by
    cases hneeds : needsArg name rule with
    | false => rfl
    | true =>
      -- it is one party itself, so there is neither an owner nor a field
      have howner : o.owner = none := by
        cases howner : o.owner with
        | none => rfl
        | some other => simp [hneeds, howner] at h; omega
      have hnested : o.nested = [] := by
        by_contra hne
        simp [hneeds, hne] at h
      simp [howner, hnested]
  unfold add
  rw [hrule]
  simp only [hfree, Bool.false_eq_true, if_false]
  cases rule with
  | passthrough => exact ⟨_, rfl⟩
  | port => exact ⟨_, rfl⟩
  | arg => exact ⟨_, rfl⟩
  | argField field =>
    have howner : o.owner = none := by
      cases howner : o.owner with
      | none => rfl
      | some other => simp [needsArg, howner, Rule.field?] at h
    simp only [howner]
    exact ⟨_, rfl⟩

/-- **Parameters can be added to a literal just if all their rules can be
read and the key `arg` goes to one party at most.** -/
theorem exists_addAll_iff (ho : o.parties [] ≤ 1) :
    (∃ o', o.addAll es = .ok o') ↔
      (∀ e ∈ es, ∃ rule, Rule.read e.1 e.2 = .ok rule) ∧ o.parties es ≤ 1 := by
  induction es generalizing o with
  | nil => exact ⟨fun _ => ⟨by simp, ho⟩, fun _ => ⟨o, rfl⟩⟩
  | cons e es ih =>
    obtain ⟨name, text⟩ := e
    have hstep : ∀ {o₁}, o.add name text = .ok o₁ →
        ((∃ o', o₁.addAll es = .ok o') ↔
          (∀ e ∈ es, ∃ rule, Rule.read e.1 e.2 = .ok rule)
            ∧ o.parties ((name, text) :: es) ≤ 1) := by
      intro o₁ hadd
      rw [ih (parties_le_one_of_add hadd ho), parties_add hadd]
    rw [List.forall_mem_cons, addAll]
    constructor
    · rintro ⟨o', h⟩
      split at h
      · exact absurd h (by simp)
      · next o₁ hadd =>
        obtain ⟨rule, hrule, -⟩ := add_cases hadd
        obtain ⟨hread, hparties⟩ := (hstep hadd).1 ⟨o', h⟩
        exact ⟨⟨⟨rule, hrule⟩, hread⟩, hparties⟩
    · rintro ⟨⟨⟨rule, hrule⟩, hread⟩, hparties⟩
      obtain ⟨o₁, hadd⟩ := exists_add hrule hparties
      rw [hadd]
      exact (hstep hadd).2 ⟨hread, hparties⟩

/-! ## Keys that stand once -/

/-- How often a key stands among the properties at the top. -/
theorem count_map_topOf (es : List (Text × Text)) (key : Text) :
    ((es.filterMap topOf).map Prod.fst).count key
      = es.countP fun e => (topOf e).any (·.1 == key) := by
  rw [List.count, List.countP_map, List.countP_filterMap]
  refine List.countP_congr fun e _ => ?_
  cases topOf e with
  | none => rfl
  | some p => rfl

/-- The key `arg` stands at the top once for each party. -/
theorem count_argKey_topKeys (es : List (Text × Text)) :
    (topKeys es).count argKey = parties {} es := by
  have hfields : (if (es.filterMap fieldOf).isEmpty then [] else [argKey]).count argKey
      = if (es.filterMap fieldOf).isEmpty then 0 else 1 := by
    rw [apply_ite (List.count argKey), List.count_nil, List.count_singleton_self]
  rw [topKeys, List.count_append, count_map_topOf, hfields, parties, List.nil_append]
  exact congrArg (· + _) (Nat.zero_add _).symm

/-- The key of a property at the top is the name of its parameter or
`arg`. -/
theorem key_of_topOf {e : Text × Text} {p : Text × PropertyValue} (h : topOf e = some p) :
    p.1 = e.1 ∨ p.1 = argKey := by
  unfold topOf at h
  split at h
  · exact .inl (Option.some.inj h ▸ rfl)
  · split at h
    · exact .inl (Option.some.inj h ▸ rfl)
    · split at h
      · exact .inr (Option.some.inj h ▸ rfl)
      · exact absurd h (by simp)

/-- Any other key stands there at most as often as there are parameters
with that name. -/
theorem count_topKeys_le {es : List (Text × Text)} {key : Text} (hkey : key ≠ argKey) :
    (topKeys es).count key ≤ (es.map Prod.fst).count key := by
  have hfields : (if (es.filterMap fieldOf).isEmpty then [] else [argKey]).count key = 0 := by
    rw [apply_ite (List.count key), List.count_nil, List.count_singleton,
      beq_eq_false_iff_ne.2 hkey.symm, if_neg Bool.false_ne_true, ite_self]
  rw [topKeys, List.count_append, hfields, Nat.add_zero, count_map_topOf, List.count,
    List.countP_map]
  refine List.countP_mono_left fun e _ h => ?_
  obtain ⟨p, hp, hkey'⟩ := Option.any_eq_true _ _ |>.1 h
  rw [beq_iff_eq] at hkey'
  subst hkey'
  exact beq_iff_eq.2 ((key_of_topOf hp).resolve_right hkey).symm

/-- **No key stands twice at the top just if the key `arg` goes to one
party at most.** -/
theorem nodup_topKeys_iff {es : List (Text × Text)} (hes : (es.map Prod.fst).Nodup) :
    (topKeys es).Nodup ↔ parties {} es ≤ 1 := by
  rw [List.nodup_iff_count_le_one] at hes ⊢
  constructor
  · intro h
    exact count_argKey_topKeys es ▸ h argKey
  · intro h key
    by_cases hkey : key = argKey
    · rw [hkey, count_argKey_topKeys]
      exact h
    · exact Nat.le_trans (count_topKeys_le hkey) (hes key)

end CallObject

namespace Parameters

open CallObject

variable {ps qs : Parameters} {t : Text}

/-- **Parameters are accepted just if all their rules can be read and no
key stands twice at the top.** -/
theorem exists_ofParameters_iff :
    (∃ o, ofParameters ps = .ok o) ↔
      (∀ e ∈ ps.entries, ∃ rule, Rule.read e.1 e.2 = .ok rule) ∧ (topKeys ps.entries).Nodup := by
  rw [nodup_topKeys_iff ps.nodup]
  exact exists_addAll_iff (by decide)

/-- An accepted literal has just the properties that the rules ask for. -/
theorem ofParameters_eq_ok {o : CallObject} (h : ofParameters ps = .ok o) :
    o.top = ps.entries.filterMap topOf ∧ o.nested = ps.entries.filterMap fieldOf :=
  (addAll_eq_ok h).2

/-- The text of parameters is the one of their literal. -/
theorem expression_eq_ok_iff :
    ps.expression = .ok t ↔ ∃ o, ofParameters ps = .ok o ∧ o.text = t := by
  unfold expression
  cases ofParameters ps with
  | error e => simp [Except.map]
  | ok o => simp [Except.map]

theorem exists_expression_eq_error_iff :
    (∃ e, ps.expression = .error e) ↔ ¬ ∃ o, ofParameters ps = .ok o := by
  unfold expression
  cases ofParameters ps with
  | error e => simp [Except.map]
  | ok o => simp [Except.map]

/-- What is accepted in one order is accepted in any other. -/
theorem exists_ofParameters_of_perm (h : qs.entries.Perm ps.entries) :
    (∃ o, ofParameters qs = .ok o) ↔ ∃ o, ofParameters ps = .ok o := by
  have hkeys : (topKeys qs.entries).Perm (topKeys ps.entries) := by
    have hfields := h.filterMap fieldOf
    rw [topKeys, topKeys, hfields.isEmpty_eq]
    exact ((h.filterMap topOf).map Prod.fst).append_right _
  have hread : (∀ e ∈ qs.entries, ∃ rule, Rule.read e.1 e.2 = .ok rule) ↔
      ∀ e ∈ ps.entries, ∃ rule, Rule.read e.1 e.2 = .ok rule :=
    forall_congr' fun e => by rw [h.mem_iff]
  rw [exists_ofParameters_iff, exists_ofParameters_iff, hkeys.nodup_iff, hread]

/-- **Parameters are refused just if a text is no rule or a key would
stand twice at the top.** So in another order they are refused alike, and
accepted with the same properties at the top and the same fields. -/
theorem rejected_iff (ps : Parameters) :
    ((∃ e, ps.expression = .error e) ↔
      (∃ p ∈ ps.entries, ∃ e, Rule.read p.1 p.2 = .error e) ∨ ¬ (topKeys ps.entries).Nodup)
    ∧ ∀ qs : Parameters, qs.entries.Perm ps.entries →
      ((∃ e, qs.expression = .error e) ↔ ∃ e, ps.expression = .error e)
      ∧ ∀ t, ps.expression = .ok t → ∃ o o', ofParameters ps = .ok o ∧ t = o.text
        ∧ ofParameters qs = .ok o' ∧ qs.expression = .ok o'.text
        ∧ o'.top.Perm o.top ∧ o'.nested.Perm o.nested := by
  constructor
  · have hunread : (∃ p ∈ ps.entries, ∃ e, Rule.read p.1 p.2 = .error e) ↔
        ¬ ∀ e ∈ ps.entries, ∃ rule, Rule.read e.1 e.2 = .ok rule := by
      rw [not_forall₂]
      refine exists_congr fun p => ?_
      cases Rule.read p.1 p.2 with
      | error e => simp
      | ok rule => simp
    rw [exists_expression_eq_error_iff, exists_ofParameters_iff, hunread, not_and_or]
  · intro qs hperm
    have hiff := exists_ofParameters_of_perm hperm
    rw [exists_expression_eq_error_iff, exists_expression_eq_error_iff, hiff]
    refine ⟨Iff.rfl, fun t ht => ?_⟩
    obtain ⟨o, ho, rfl⟩ := expression_eq_ok_iff.1 ht
    obtain ⟨o', ho'⟩ := hiff.2 ⟨o, ho⟩
    obtain ⟨htop, hnested⟩ := ofParameters_eq_ok ho
    obtain ⟨htop', hnested'⟩ := ofParameters_eq_ok ho'
    refine ⟨o, o', ho, rfl, ho', expression_eq_ok_iff.2 ⟨o', ho', rfl⟩, ?_, ?_⟩
    · rw [htop, htop']
      exact hperm.filterMap topOf
    · rw [hnested, hnested']
      exact hperm.filterMap fieldOf

/-- Two fields with another property between them. -/
def windowSize : Parameters :=
  .ofPairs [("width", "arg.width"), ("port", "port"), ("height", "arg.height")]

/-- The same from the end. -/
def windowSizeBack : Parameters :=
  .ofPairs [("height", "arg.height"), ("port", "port"), ("width", "arg.width")]

/-- A parameter with the name `arg` before a field and behind it. -/
def contended : Parameters := .ofPairs [("arg", "port"), ("width", "arg.width")]

/-- The same from the end. -/
def contendedBack : Parameters := .ofPairs [("width", "arg.width"), ("arg", "port")]

/-- The first are accepted in both orders, and the second are refused in
both, each time for the party that comes last. -/
theorem rejected_iff_windowSize :
    windowSizeBack.entries.Perm windowSize.entries
      ∧ windowSize.expression
        = .ok "\x7b port: port, arg: \x7b width: params?.width, height: params?.height \x7d \x7d"
      ∧ (∃ o o', ofParameters windowSize = .ok o ∧ ofParameters windowSizeBack = .ok o'
        ∧ o'.top.Perm o.top ∧ o'.nested.Perm o.nested)
      ∧ contendedBack.entries.Perm contended.entries
      ∧ contended.expression = .error (.argOwned "width" "width" "arg")
      ∧ ∃ e, contendedBack.expression = .error e := by
  have hperm : windowSizeBack.entries.Perm windowSize.entries := by decide
  have htext : windowSize.expression
      = .ok "\x7b port: port, arg: \x7b width: params?.width, height: params?.height \x7d \x7d" :=
    rfl
  have hperm' : contendedBack.entries.Perm contended.entries := by decide
  have hrefused : contended.expression = .error (.argOwned "width" "width" "arg") := rfl
  obtain ⟨o, o', ho, -, ho', -, htop, hnested⟩ := ((rejected_iff windowSize).2 _ hperm).2 _ htext
  exact ⟨hperm, htext, ⟨o, o', ho, ho', htop, hnested⟩, hperm', hrefused,
    ((rejected_iff contended).2 _ hperm').1.2 ⟨_, hrefused⟩⟩

end Parameters

end HandlerGen
