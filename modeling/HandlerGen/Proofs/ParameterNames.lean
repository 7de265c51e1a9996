import HandlerGen.Proofs.Acceptance
import HandlerGen.Proofs.DeclaredNames
import HandlerGen.Proofs.NamePatterns
/-!
# The names of parameters

The names of a handler's parameters and the fields that their rules name
are placed as identifiers in the generated code
(`Parameters.placedNames`). They passed the check on identifiers, so each
is one or has a line feed behind it. **What is passed to the remote call
stands on one line just if they all are identifiers**
(`Descriptor.break_notMem_expression_iff`), and two of them that differ by
a line feed stand for one property.
-/

namespace HandlerGen

namespace Text

variable {m n : Text}

/-- The first word of a name that passed its check is what the check looked
at. -/
theorem firstWord_eq_dropFinalBreak (h : n.readsAsIdentifier = true) :
    n.firstWord = n.dropFinalBreak := by
  have hword : ∀ {rest : Text}, rest.goesOn = false →
      (n.dropFinalBreak ++ rest).firstWord = n.dropFinalBreak :=
    takeWhile_append_of_isIdentifier h
  rcases eq_dropFinalBreak_or n with heq | heq
  · have hnone : n = n.dropFinalBreak ++ [] := heq.trans (List.append_nil _).symm
    exact (congrArg firstWord hnone).trans (hword rfl)
  · exact (congrArg firstWord heq).trans (hword rfl)

/-- **Two names that passed their checks stand for one property** just if
they are the same but for a line feed behind one of them. -/
theorem firstWord_eq_iff (hm : m.readsAsIdentifier = true) (hn : n.readsAsIdentifier = true) :
    m.firstWord = n.firstWord ↔ m = n ∨ m = n ++ ['\n'] ∨ n = m ++ ['\n'] := by
  -- only the last character of a name can be a line feed
  have hlonger : ∀ {n : Text}, (n ++ ['\n'] : Text).readsAsIdentifier = true →
      (n ++ ['\n'] : Text).dropFinalBreak = n.dropFinalBreak := by
    intro n h
    rw [readsAsIdentifier, dropFinalBreak_append_break] at h
    rw [dropFinalBreak_append_break, dropFinalBreak_of_notMem (break_notMem_of_isIdentifier h)]
  rw [firstWord_eq_dropFinalBreak hm, firstWord_eq_dropFinalBreak hn]
  constructor
  · intro heq
    rcases eq_dropFinalBreak_or m with h | h <;> rcases eq_dropFinalBreak_or n with h' | h'
    · exact .inl (by rw [h, h', heq])
    · exact .inr (.inr (by rw [h, h', heq]))
    · exact .inr (.inl (by rw [h, h', heq]))
    · exact .inl (by rw [h, h', heq])
  · rintro (rfl | rfl | rfl)
    · rfl
    · exact hlonger hm
    · exact (hlonger hn).symm

end Text

open Text

/-! ## Line feeds in what is passed -/

namespace Expression

/-- Line feeds in an object's text stand in keys and in the texts of
values. -/
theorem break_notMem_text_object_iff {properties : List (Text × Expression)} :
    '\n' ∉ (object properties).text ↔ ∀ p ∈ properties, '\n' ∉ p.1 ∧ '\n' ∉ p.2.text := by
  have hproperty : ∀ {key value : Text},
      '\n' ∉ propertyText key value ↔ '\n' ∉ key ∧ '\n' ∉ value := by
    intro key value
    have hcolon : '\n' ∉ (": " : Text) := by decide
    rw [propertyText, List.mem_append, List.mem_append, or_iff_right hcolon, not_or]
  have hbraced : ∀ {ts : List Text}, '\n' ∉ CallObject.braced ts ↔ ∀ t ∈ ts, '\n' ∉ t := by
    intro ts
    have hopening : '\n' ∉ ("\x7b " : Text) := by decide
    have hclosing : '\n' ∉ (" \x7d" : Text) := by decide
    have hcomma : '\n' ∉ (", " : Text) := by decide
    rw [CallObject.braced, List.mem_append, List.mem_append, or_iff_right hopening,
      or_iff_left hclosing]
    constructor
    · exact fun h t ht hbreak => h (mem_intercalate_of_mem ht hbreak)
    · rintro h hbreak
      obtain ⟨t, ht, hbreak⟩ := (mem_of_mem_intercalate hbreak).resolve_left hcomma
      exact h t ht hbreak
  cases properties with
  | nil => exact iff_of_true (by decide) fun p hp => absurd hp List.not_mem_nil
  | cons p properties =>
    rw [text_object (List.cons_ne_nil p properties), hbraced, List.forall_mem_map]
    exact forall₂_congr fun q _ => hproperty

theorem break_notMem_text_param_iff {name : Text} :
    '\n' ∉ (value (.param name)).text ↔ '\n' ∉ name := by
  have hparams : '\n' ∉ (['p', 'a', 'r', 'a', 'm', 's'] : Text) := by decide
  have hmark : '\n' ∉ (['?', '.'] : Text) := by decide
  rw [text, valueText, List.mem_append, List.mem_append, or_iff_right hparams, or_iff_right hmark]

end Expression

namespace CallObject

variable {es : List (Text × Text)}

/-- Line feeds in what is asked for stand in properties at the top and in
fields. -/
theorem break_notMem_text_asked_iff : '\n' ∉ (asked es).text ↔
    (∀ p ∈ es.filterMap topOf, '\n' ∉ p.1 ∧ '\n' ∉ (Expression.value p.2).text)
      ∧ ∀ p ∈ es.filterMap fieldOf, '\n' ∉ p.1 ∧ '\n' ∉ p.2 := by
  have harg : '\n' ∉ argKey := by decide
  have hnested : '\n' ∉ (Expression.object ((es.filterMap fieldOf).map fun p =>
        (p.1, .value (.param p.2)))).text
      ↔ ∀ p ∈ es.filterMap fieldOf, '\n' ∉ p.1 ∧ '\n' ∉ p.2 := by
    rw [Expression.break_notMem_text_object_iff, List.forall_mem_map]
    exact forall₂_congr fun p _ => and_congr_right fun _ => Expression.break_notMem_text_param_iff
  rw [asked, Expression.break_notMem_text_object_iff, List.forall_mem_append, List.forall_mem_map]
  refine and_congr_right fun _ => ?_
  split
  · next hnone =>
    rw [List.isEmpty_map, List.isEmpty_iff] at hnone
    rw [hnone]
    exact iff_of_true (fun p hp => absurd hp List.not_mem_nil)
      fun p hp => absurd hp List.not_mem_nil
  · rw [List.forall_mem_singleton, hnested, and_iff_right harg]

/-- The line feeds of what a parameter asks for are those of its name and
of the field. -/
theorem breaks_of_read {e : Text × Text} {rule : Rule} (h : Rule.read e.1 e.2 = .ok rule) :
    ((∀ p, topOf e = some p → '\n' ∉ p.1 ∧ '\n' ∉ (Expression.value p.2).text)
      ∧ ∀ p, fieldOf e = some p → '\n' ∉ p.1 ∧ '\n' ∉ p.2)
    ↔ '\n' ∉ e.1 ∧ ∀ p, fieldOf e = some p → '\n' ∉ p.1 := by
  have harg : '\n' ∉ argKey := by decide
  have hport : '\n' ∉ (Expression.value .port).text := by decide
  obtain ⟨htop, hfield⟩ := asks_of_read h
  rw [htop, hfield]
  cases rule with
  | passthrough => simp [topProperty?, Rule.field?, Expression.break_notMem_text_param_iff]
  | port => simp [topProperty?, Rule.field?, hport]
  | arg => simp [topProperty?, Rule.field?, harg, Expression.break_notMem_text_param_iff]
  | argField field => simp [topProperty?, Rule.field?, and_comm]

end CallObject

namespace Parameters

open CallObject

variable {ps : Parameters} {t : Text}

/-- The names that stand in the generated code as identifiers: those of the
parameters and of the fields that their rules name. -/
def placedNames (ps : Parameters) : List Text :=
  ps.entries.map Prod.fst ++ (ps.entries.filterMap fieldOf).map Prod.fst

/-- Names and fields have passed the check on identifiers. -/
theorem readsAsIdentifier_of_mem_placedNames (h : ps.expression = .ok t)
    (hnames : ∀ p ∈ ps.entries.map Prod.fst, p.readsAsIdentifier = true) :
    ∀ n ∈ ps.placedNames, n.readsAsIdentifier = true := by
  obtain ⟨o, ho, -⟩ := expression_eq_ok_iff.1 h
  obtain ⟨hread, -⟩ := addAll_eq_ok ho
  intro n hn
  rcases List.mem_append.1 hn with hn | hn
  · exact hnames n hn
  · obtain ⟨p, hp, rfl⟩ := List.mem_map.1 hn
    obtain ⟨e, he, hp⟩ := List.mem_filterMap.1 hp
    obtain ⟨rule, hrule⟩ := hread e he
    obtain ⟨rfl, -⟩ := read_of_fieldOf hrule hp
    exact Rule.readsAsIdentifier_of_read hrule

/-- **The line feeds of what is passed are those of names and fields.** -/
theorem break_notMem_iff (h : ps.expression = .ok t) :
    '\n' ∉ t ↔ ∀ n ∈ ps.placedNames, '\n' ∉ n := by
  obtain ⟨o, ho, -⟩ := expression_eq_ok_iff.1 h
  obtain ⟨hread, -⟩ := addAll_eq_ok ho
  rw [eq_text_asked h, break_notMem_text_asked_iff, placedNames, List.forall_mem_append]
  simp only [List.forall_mem_map, List.forall_mem_filterMap]
  rw [← forall₂_and, ← forall₂_and]
  refine forall₂_congr fun e he => ?_
  obtain ⟨rule, hrule⟩ := hread e he
  exact breaks_of_read hrule

theorem break_notMem_fieldLine_iff {f : Text} : '\n' ∉ ParamsType.fieldLine f ↔ '\n' ∉ f := by
  have hmargin : '\n' ∉ ("  " : Text) := by decide
  have htype : '\n' ∉ ("?: unknown;" : Text) := by decide
  rw [ParamsType.fieldLine, List.mem_append, List.mem_append, or_iff_right hmargin,
    or_iff_left htype]

/-- Different parameters stand for different properties just if no two of
them differ by a line feed alone. -/
theorem nodup_map_firstWord_iff
    (hnames : ∀ p ∈ ps.entries.map Prod.fst, p.readsAsIdentifier = true) :
    ((ps.entries.map Prod.fst).map firstWord).Nodup
      ↔ ∀ n ∈ ps.entries.map Prod.fst, n ++ ['\n'] ∉ ps.entries.map Prod.fst := by
  rw [List.nodup_map_iff_inj_on ps.nodup]
  constructor
  · intro hinj n hn hlonger
    have hsame : (n ++ ['\n'] : Text).firstWord = n.firstWord :=
      (firstWord_eq_iff (hnames _ hlonger) (hnames n hn)).2 (.inr (.inl rfl))
    have hlength := congrArg List.length (hinj _ hlonger n hn hsame)
    rw [List.length_append, List.length_singleton] at hlength
    omega
  · intro hnone m hm n hn hsame
    rcases (firstWord_eq_iff (hnames m hm) (hnames n hn)).1 hsame with heq | rfl | rfl
    · exact heq
    · exact absurd hm (hnone n hn)
    · exact absurd hn (hnone m hm)

end Parameters

namespace Descriptor

open CallObject Parameters

/-- **What is passed and what is declared stands on single lines just if
the names and fields are identifiers.** Each of them is one or has a line
feed behind it, and different parameters stand for different properties
just if no two of them differ by that alone. -/
theorem break_notMem_expression_iff {source : Text} {v : Value} {d : Descriptor} {t : Text}
    (h : ofValue source v = .ok d) (ht : d.parameters.expression = .ok t) :
    (∀ n ∈ d.parameters.placedNames,
      n ∈ Pattern.identifier ∨ ∃ m ∈ Pattern.identifier, n = m ++ ['\n'])
    ∧ ('\n' ∉ t ↔ ∀ n ∈ d.parameters.placedNames, n ∈ Pattern.identifier)
    ∧ (∃ fs, d.parameters.fields = .ok fs
      ∧ ∀ f ∈ fs, '\n' ∉ ParamsType.fieldLine f ↔ f ∈ Pattern.identifier)
    ∧ (((d.parameters.entries.map Prod.fst).map firstWord).Nodup
      ↔ ∀ n ∈ d.parameters.entries.map Prod.fst,
        n ++ ['\n'] ∉ d.parameters.entries.map Prod.fst) := by
  have haccepted : d.Accepted := ⟨source, v, h⟩
  have hnames := haccepted.readsAsIdentifier
  have hplaced := readsAsIdentifier_of_mem_placedNames ht hnames
  obtain ⟨o, ho, -⟩ := expression_eq_ok_iff.1 ht
  obtain ⟨hread, -⟩ := addAll_eq_ok ho
  refine ⟨fun n hn => readsAsIdentifier_iff.1 (hplaced n hn), ?_, ⟨_, fieldsOf_eq_ok hread, ?_⟩,
    nodup_map_firstWord_iff hnames⟩
  · rw [break_notMem_iff ht]
    exact forall₂_congr fun n hn => (mem_identifier_iff_of_reads (hplaced n hn)).symm
  · intro f hf
    obtain ⟨e, he, rfl⟩ := List.mem_map.1 hf
    have hname : e.1 ∈ d.parameters.entries.map Prod.fst :=
      List.mem_map_of_mem (List.mem_of_mem_filter he)
    rw [break_notMem_fieldLine_iff, mem_identifier_iff_of_reads (hnames e.1 hname)]

/-- Names and a field without line feeds. -/
theorem break_notMem_expression_iff_hotReload :
    ofValue "core.yaml" (.dict hotReload.record) = .ok hotReload
      ∧ hotReload.parameters.expression
        = .ok "\x7b port: port, arg: \x7b count: params?.count \x7d \x7d"
      ∧ (∀ n ∈ hotReload.parameters.placedNames, n ∈ Pattern.identifier)
      ∧ '\n' ∉ ParamsType.fieldLine "count"
      ∧ [firstWord "port", firstWord "count"].Nodup := by
  have hread : ofValue "core.yaml" (.dict hotReload.record) = .ok hotReload :=
    ofValue_record (accepted_iff.1 accepted_hotReload) "core.yaml"
  have htext : hotReload.parameters.expression
      = .ok "\x7b port: port, arg: \x7b count: params?.count \x7d \x7d" := rfl
  obtain ⟨-, hline, ⟨fs, hfs, hfields⟩, hnodup⟩ := break_notMem_expression_iff hread htext
  have hplaced := hline.1 (by decide)
  obtain rfl : ["count".toList] = fs := Except.ok.inj hfs
  have hcount : "count".toList ∈ hotReload.parameters.placedNames := by decide
  exact ⟨hread, htext, hplaced, (hfields _ List.mem_cons_self).2 (hplaced _ hcount),
    hnodup.2 (by decide)⟩

/-- A handler with line feeds at the ends of a name and of a field. -/
def getIsolate : Descriptor :=
  { getVm with
    parameters := .ofPairs [("isolate", ""), ("isolate\n", ""), ("since", "arg.since\n")] }

/-- **It is read from its record, and its parameters are accepted.** But
neither is that name an identifier nor that field, what is passed goes over
several lines and so does what is declared, and two of the parameters stand
for one property. -/
theorem placedNames_not_identifier_getIsolate :
    ofValue "core.yaml" (.dict getIsolate.record) = .ok getIsolate
      ∧ (∃ t, getIsolate.parameters.expression = .ok t ∧ '\n' ∈ t)
      ∧ (∃ n ∈ getIsolate.parameters.entries.map Prod.fst, n ∉ Pattern.identifier)
      ∧ (∃ p ∈ getIsolate.parameters.entries.filterMap fieldOf, p.1 ∉ Pattern.identifier)
      ∧ (∃ fs, getIsolate.parameters.fields = .ok fs ∧ ∃ f ∈ fs, '\n' ∈ ParamsType.fieldLine f)
      ∧ ¬ ((getIsolate.parameters.entries.map Prod.fst).map firstWord).Nodup := by
  have haccepted : getIsolate.Accepted :=
    accepted_iff.2 ⟨by decide, by decide, by decide, by decide, by decide⟩
  have hread : ofValue "core.yaml" (.dict getIsolate.record) = .ok getIsolate :=
    ofValue_record (accepted_iff.1 haccepted) "core.yaml"
  have htext : getIsolate.parameters.expression
      = .ok ("\x7b isolate: params?.isolate, isolate\n: params?.isolate\n, "
        ++ "arg: \x7b since\n: params?.since \x7d \x7d") := rfl
  have hfields : getIsolate.parameters.fields = .ok ["isolate", "isolate\n", "since"] := rfl
  have hbreak : ∀ {n : Text}, '\n' ∈ n → n ∉ Pattern.identifier := fun hn h =>
    break_notMem_of_isIdentifier (Pattern.mem_identifier_iff.1 h) hn
  refine ⟨hread, ⟨_, htext, by decide⟩, ⟨"isolate\n", by decide, hbreak (by decide)⟩,
    ⟨("since\n", "since"), by decide, hbreak (by decide)⟩,
    ⟨_, hfields, "isolate\n", by decide, by decide⟩, by decide⟩

end Descriptor

end HandlerGen
