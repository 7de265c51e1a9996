import HandlerGen.Proofs.CallProperties
import HandlerGen.Proofs.ObjectLiteral
/-!
# Reading the object of a remote call

What a method passes to the remote call is read back as an object with one
property for each parameter (`Parameters.read_expression`): those at the
top in the order of the parameters, and behind them, if a rule asks for a
field, the key `arg` with the fields in the same order.

Names and fields are without line feeds here. A name that ends in one is
accepted, and it puts the line feed into the literal.
-/

namespace HandlerGen

/-- A name without line feeds that reads as an identifier is one. -/
theorem Text.isIdentifier_of_readsAsIdentifier {t : Text} (h : t.readsAsIdentifier = true)
    (ht : '\n' ∉ t) : t.isIdentifier = true := by
  rwa [readsAsIdentifier, dropFinalBreak_of_notMem ht] at h

namespace CallObject

/-- The object that has all the properties that some parameters ask for. -/
def asked (es : List (Text × Text)) : Expression :=
  let fields := (es.filterMap fieldOf).map fun p => (p.1, Expression.value (.param p.2))
  .object ((es.filterMap topOf).map (fun p => (p.1, Expression.value p.2))
    ++ if fields.isEmpty then [] else [(argKey, .object fields)])

/-! ## The pieces of the text -/

theorem propertyText_eq (p : Text × PropertyValue) :
    propertyText p = Expression.propertyText p.1 (Expression.valueText p.2) := by
  obtain ⟨key, value⟩ := p
  cases value with
  | port =>
    have hport : (": port".toList : Text) = ": " ++ ['p', 'o', 'r', 't'] := by decide
    exact congrArg (key ++ ·) hport
  | param name =>
    have hparams : (": params?.".toList : Text)
        = ": " ++ ['p', 'a', 'r', 'a', 'm', 's'] ++ ['?', '.'] := by decide
    change key ++ ": params?.".toList ++ name = _
    rw [hparams, Expression.propertyText, Expression.valueText]
    simp only [List.append_assoc]

theorem fieldText_eq (p : Text × Text) :
    fieldText p = Expression.propertyText p.1 (Expression.valueText (.param p.2)) :=
  propertyText_eq (p.1, .param p.2)

/-- The properties of a literal: the key, the text of the value and what
it is read as. -/
def pieces (o : CallObject) : List (Text × Text × Expression) :=
  o.top.map (fun p => (p.1, Expression.valueText p.2, .value p.2))
    ++ if o.nested.isEmpty then []
      else [(argKey, braced (o.nested.map fieldText),
        .object (o.nested.map fun p => (p.1, .value (.param p.2))))]

theorem map_propertyText_pieces (o : CallObject) :
    o.pieces.map (fun g => Expression.propertyText g.1 g.2.1)
      = o.top.map propertyText
        ++ if o.nested.isEmpty then [] else ["arg: " ++ braced (o.nested.map fieldText)] := by
  have harg : ("arg: ".toList : Text) = argKey ++ ": " := by decide
  have htop : (fun p => Expression.propertyText p.1 (Expression.valueText p.2)) = propertyText :=
    funext fun p => (propertyText_eq p).symm
  rw [pieces, List.map_append, List.map_map, apply_ite (List.map _), harg, List.append_assoc]
  rw [← htop]
  rfl

/-- A literal with properties is these in braces. -/
theorem text_eq_braced {o : CallObject} (h : o.top ≠ [] ∨ o.nested ≠ []) :
    o.text = braced (o.pieces.map fun g => Expression.propertyText g.1 g.2.1) := by
  have hempty : (o.top.isEmpty && o.nested.isEmpty) = false := by
    simpa [or_iff_not_imp_left] using h
  rw [text, hempty, if_neg Bool.false_ne_true, map_propertyText_pieces]

/-- The empty literal is the one without properties. -/
theorem text_eq_empty_iff {o : CallObject} :
    o.text = "\x7b\x7d" ↔ o.top = [] ∧ o.nested = [] := by
  by_cases h : o.top = [] ∧ o.nested = []
  · have htext : o.text = "\x7b\x7d" := by rw [text, h.1, h.2]; rfl
    exact iff_of_true htext h
  · have hstart : ("\x7b ".toList : Text) = ['\x7b', ' '] := by decide
    rw [text_eq_braced (not_and_or.1 h), braced, hstart]
    exact iff_of_false (fun heq => absurd (congrArg (·[1]?) heq) (by simp)) h

/-- The text of a piece is how the expression is spelt that it is read
as. -/
theorem text_of_mem_pieces {o : CallObject} {g : Text × Text × Expression} (hg : g ∈ o.pieces) :
    g.2.2.text = g.2.1 := by
  rcases List.mem_append.1 hg with hg | hg
  · obtain ⟨p, -, rfl⟩ := List.mem_map.1 hg
    rfl
  · split at hg
    · exact absurd hg List.not_mem_nil
    · next hsome =>
      obtain rfl := List.mem_singleton.1 hg
      have hne : o.nested.map (fun p => (p.1, Expression.value (.param p.2))) ≠ [] := by
        simpa using hsome
      rw [Expression.text_object hne, List.map_map, funext fieldText_eq]
      rfl

/-- **The text of a literal is how its properties are spelt.** -/
theorem text_eq_text_object (o : CallObject) :
    o.text = (Expression.object (o.pieces.map fun g => (g.1, g.2.2))).text := by
  by_cases h : o.top ≠ [] ∨ o.nested ≠ []
  · have hne : o.pieces.map (fun g => (g.1, g.2.2)) ≠ [] := by
      simpa [pieces, or_iff_not_imp_left] using h
    rw [text_eq_braced h, Expression.text_object hne, List.map_map]
    refine congrArg braced (List.map_congr_left fun g hg => ?_)
    exact congrArg (Expression.propertyText g.1) (text_of_mem_pieces hg).symm
  · obtain ⟨htop, hnested⟩ : o.top = [] ∧ o.nested = [] := by simpa using h
    have hpieces : o.pieces = [] := by rw [pieces, htop, hnested]; rfl
    rw [text_eq_empty_iff.2 ⟨htop, hnested⟩, hpieces]
    rfl

/-- **A literal is read as its properties**, with the fields behind them in
an object of their own. -/
theorem takes_text {o : CallObject} (depth : Nat)
    (htop : ∀ p ∈ o.top, p.1.isIdentifier = true
      ∧ ∀ name, p.2 = .param name → name.isIdentifier = true)
    (hnested : ∀ p ∈ o.nested, p.1.isIdentifier = true ∧ p.2.isIdentifier = true) :
    Takes (Expression.reader (depth + 2)) o.text
      (.object (o.pieces.map fun g => (g.1, g.2.2))) := by
  have hpieces : ∀ g ∈ o.pieces, g.1.isIdentifier = true
      ∧ TakesWord (Expression.reader (depth + 1)) g.2.1 g.2.2 := by
    intro g hg
    rcases List.mem_append.1 hg with hg | hg
    · obtain ⟨p, hp, rfl⟩ := List.mem_map.1 hg
      exact ⟨(htop p hp).1, Expression.takes_value _ (htop p hp).2⟩
    · split at hg
      · exact absurd hg List.not_mem_nil
      · next hsome =>
        rw [List.mem_singleton] at hg
        subst hg
        have hfields : Takes (Expression.reader (depth + 1))
            (braced (o.nested.map fun p =>
              Expression.propertyText p.1 (Expression.valueText (.param p.2))))
            (.object (o.nested.map fun p => (p.1, .value (.param p.2)))) :=
          Expression.takes_braced (fun p hp => (hnested p hp).1)
            (fun p hp => Expression.takes_value _ fun name h =>
              PropertyValue.param.inj h ▸ (hnested p hp).2)
            (by simpa using hsome)
        have hkey : argKey.isIdentifier = true := by decide
        refine ⟨hkey, TakesWord.of_takes ?_⟩
        rwa [funext fieldText_eq]
  by_cases hne : o.top ≠ [] ∨ o.nested ≠ []
  · have hne' : o.pieces ≠ [] := by
      simpa [pieces, or_iff_not_imp_left] using hne
    rw [text_eq_braced hne]
    exact Expression.takes_braced (fun g hg => (hpieces g hg).1) (fun g hg => (hpieces g hg).2) hne'
  · obtain ⟨hnoTop, hnoNested⟩ : o.top = [] ∧ o.nested = [] := by simpa using hne
    have hbraces : ("\x7b\x7d".toList : Text) = ['\x7b', '\x7d'] := by decide
    rw [text_eq_empty_iff.2 ⟨hnoTop, hnoNested⟩, hbraces, pieces, hnoTop, hnoNested]
    exact Expression.takes_empty (depth + 1)

/-- So it is read with as many objects within objects as it has
characters. -/
theorem read_text {o : CallObject}
    (htop : ∀ p ∈ o.top, p.1.isIdentifier = true
      ∧ ∀ name, p.2 = .param name → name.isIdentifier = true)
    (hnested : ∀ p ∈ o.nested, p.1.isIdentifier = true ∧ p.2.isIdentifier = true) :
    Expression.read o.text = some (.object (o.pieces.map fun g => (g.1, g.2.2))) := by
  have hbraces : 2 ≤ o.text.length := by
    by_cases h : o.top ≠ [] ∨ o.nested ≠ []
    · have hstart : 2 ≤ ("\x7b ".toList : Text).length := by decide
      rw [text_eq_braced h, braced, List.length_append, List.length_append]
      omega
    · have htext : o.text = "\x7b\x7d" := text_eq_empty_iff.2 (by simpa using h)
      rw [htext]
      decide
  obtain ⟨depth, hdepth⟩ : ∃ k, o.text.length = k + 2 := ⟨o.text.length - 2, by omega⟩
  rw [Expression.read, hdepth]
  exact (takes_text depth htop hnested).whole

/-! ## What is asked for -/

/-- What a parameter asks for at the top has its name or the key `arg`, and
its value or the port number. -/
theorem isIdentifier_of_topOf {e : Text × Text} {p : Text × PropertyValue}
    (h : topOf e = some p) (he : e.1.isIdentifier = true) :
    p.1.isIdentifier = true ∧ ∀ name, p.2 = .param name → name.isIdentifier = true := by
  have harg : argKey.isIdentifier = true := by decide
  unfold topOf at h
  split at h
  · obtain rfl := Option.some.inj h
    exact ⟨he, fun name hname => PropertyValue.param.inj hname ▸ he⟩
  · split at h
    · obtain rfl := Option.some.inj h
      exact ⟨he, fun name hname => absurd hname (by simp)⟩
    · split at h
      · obtain rfl := Option.some.inj h
        exact ⟨harg, fun name hname => PropertyValue.param.inj hname ▸ he⟩
      · exact absurd h (by simp)

/-- A field that is asked for is the one that the rule names. -/
theorem read_of_fieldOf {e p : Text × Text} {rule : Rule} (hrule : Rule.read e.1 e.2 = .ok rule)
    (h : fieldOf e = some p) : rule = .argField p.1 ∧ p.2 = e.1 := by
  rw [(asks_of_read hrule).2] at h
  cases rule with
  | argField field =>
    obtain rfl := Option.some.inj h
    exact ⟨rfl, rfl⟩
  | _ => exact absurd h (by simp [Rule.field?])

end CallObject

namespace Parameters

open CallObject

variable {ps : Parameters} {o : CallObject}

/-- The empty object is passed just without parameters. -/
theorem expression_eq_empty_iff : ps.expression = .ok "\x7b\x7d" ↔ ps.entries = [] := by
  rw [expression_eq_ok_iff]
  constructor
  · rintro ⟨o, ho, htext⟩
    obtain ⟨hread, -⟩ := addAll_eq_ok ho
    obtain ⟨htop, hnested⟩ := ofParameters_eq_ok ho
    rw [text_eq_empty_iff, htop, hnested] at htext
    have hlength := length_asked hread
    rw [htext.1, htext.2] at hlength
    exact List.length_eq_zero_iff.1 hlength.symm
  · intro h
    exact ⟨{}, by rw [ofParameters, h]; rfl, rfl⟩

/-- The pieces of an accepted literal are what its parameters ask for. -/
theorem asked_eq_pieces (ho : ofParameters ps = .ok o) :
    asked ps.entries = .object (o.pieces.map fun g => (g.1, g.2.2)) := by
  obtain ⟨htop, hnested⟩ := ofParameters_eq_ok ho
  rw [asked, pieces, htop, hnested, List.map_append, List.map_map, apply_ite (List.map _),
    List.isEmpty_map]
  rfl

/-- **What is passed is how the properties are spelt that the rules ask
for**, whatever the names are. -/
theorem eq_text_asked {t : Text} (h : ps.expression = .ok t) : t = (asked ps.entries).text := by
  obtain ⟨o, ho, rfl⟩ := expression_eq_ok_iff.1 h
  rw [asked_eq_pieces ho]
  exact text_eq_text_object o

/-- **An accepted literal is read as what its parameters ask for.** -/
theorem read_text_of_ofParameters (ho : ofParameters ps = .ok o)
    (hnames : ∀ e ∈ ps.entries, e.1.isIdentifier = true)
    (hfields : ∀ p ∈ ps.entries.filterMap fieldOf, '\n' ∉ p.1) :
    Expression.read o.text = some (asked ps.entries) := by
  obtain ⟨hread, -⟩ := addAll_eq_ok ho
  obtain ⟨htop, hnested⟩ := ofParameters_eq_ok ho
  rw [asked_eq_pieces ho]
  refine read_text (fun p hp => ?_) fun p hp => ?_
  · rw [htop] at hp
    obtain ⟨e, he, hp⟩ := List.mem_filterMap.1 hp
    exact isIdentifier_of_topOf hp (hnames e he)
  · rw [hnested] at hp
    have hbreak := hfields p hp
    obtain ⟨e, he, hp⟩ := List.mem_filterMap.1 hp
    obtain ⟨rule, hrule⟩ := hread e he
    obtain ⟨rfl, hname⟩ := read_of_fieldOf hrule hp
    have hfield := Text.isIdentifier_of_readsAsIdentifier
      (Rule.readsAsIdentifier_of_read hrule) hbreak
    exact ⟨hfield, hname ▸ hnames e he⟩

/-- **The object that is passed is read as the properties that the rules
ask for**: those at the top in the order of the parameters, and behind
them the fields at the key `arg`, if there are any. Each parameter asks for
one of them. The empty object is passed just without parameters. -/
theorem read_expression (ps : Parameters) :
    (ps.expression = .ok "\x7b\x7d" ↔ ps.entries = [])
    ∧ ∀ t, ps.expression = .ok t →
      (∀ e ∈ ps.entries, e.1.readsAsIdentifier = true ∧ '\n' ∉ e.1) →
      (∀ p ∈ ps.entries.filterMap fieldOf, '\n' ∉ p.1) →
      Expression.read t = some (asked ps.entries)
        ∧ ∀ e ∈ ps.entries, (topOf e).isSome = !(fieldOf e).isSome := by
  refine ⟨expression_eq_empty_iff, fun t ht hnames hfields => ?_⟩
  obtain ⟨o, ho, rfl⟩ := expression_eq_ok_iff.1 ht
  obtain ⟨hread, -⟩ := addAll_eq_ok ho
  have hidentifier : ∀ e ∈ ps.entries, e.1.isIdentifier = true := fun e he =>
    Text.isIdentifier_of_readsAsIdentifier (hnames e he).1 (hnames e he).2
  refine ⟨read_text_of_ofParameters ho hidentifier hfields, fun e he => ?_⟩
  obtain ⟨rule, hrule⟩ := hread e he
  obtain ⟨htop, hfield⟩ := asks_of_read hrule
  rw [htop, hfield]
  cases rule <;> rfl

/-- Two fields around the port number. The fields stand behind it. -/
theorem read_expression_windowSize :
    windowSize.expression
        = .ok "\x7b port: port, arg: \x7b width: params?.width, height: params?.height \x7d \x7d"
      ∧ Expression.read
          "\x7b port: port, arg: \x7b width: params?.width, height: params?.height \x7d \x7d"
        = some (.object [("port".toList, .value .port), (argKey, .object
            [("width".toList, .value (.param "width")),
              ("height".toList, .value (.param "height"))])]) := by
  have htext : windowSize.expression
      = .ok "\x7b port: port, arg: \x7b width: params?.width, height: params?.height \x7d \x7d" :=
    rfl
  exact ⟨htext, ((read_expression windowSize).2 _ htext (by decide) (by decide)).1⟩

/-- Nothing is read with a comma behind the last property. -/
example : Expression.read "\x7b port: port, \x7d" = none := rfl

end Parameters

end HandlerGen
