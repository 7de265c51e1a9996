import HandlerGen.Proofs.CallReading
import HandlerGen.Proofs.Layout
import HandlerGen.Proofs.NamesRead
/-!
# Declared and read

The type of a method's parameters declares a name for each parameter but
those whose rule is the port number. **What is declared is what is read**
(`Parameters.namesRead_perm_fields`): each name once and in the order of
the declarations, with the parameters that fill fields behind the others,
since the object at the key `arg` stands last.
-/

namespace HandlerGen

open Text

/-- The text of a rule for the port number is the only one. -/
theorem Rule.eq_port_iff_of_read {name text : Text} {rule : Rule}
    (h : Rule.read name text = .ok rule) : rule = .port ↔ text = "port".toList := by
  unfold Rule.read at h
  split at h
  · obtain rfl := Except.ok.inj h
    exact iff_of_false (by simp) (by simp)
  · obtain rfl := Except.ok.inj h
    exact iff_of_true rfl rfl
  · obtain rfl := Except.ok.inj h
    exact iff_of_false (by simp) (by simp)
  · next field =>
    split at h
    · obtain rfl := Except.ok.inj h
      exact iff_of_false (by simp) (by simp)
    · exact absurd h (by simp)
  · exact absurd h (by simp)

namespace CallObject

variable {es : List (Text × Text)}

/-- Whether a parameter fills a field. -/
def fills (e : Text × Text) : Bool := (fieldOf e).isSome

/-- Whether a parameter is declared: all are but those whose rule is the
port number. -/
def declares (e : Text × Text) : Bool := e.2 != "port".toList

theorem declares_of_read {name text : Text} {rule : Rule} (h : Rule.read name text = .ok rule) :
    declares (name, text) = !decide (rule = .port) := by
  rw [declares, bne, beq_eq_decide, decide_eq_decide.2 (Rule.eq_port_iff_of_read h)]

theorem fills_of_read {name text : Text} {rule : Rule} (h : Rule.read name text = .ok rule) :
    fills (name, text) = rule.field?.isSome := by
  rw [fills, (asks_of_read h).2, Option.isSome_map]

/-- What is read at the top and in the fields, by the parameters. -/
theorem reads_asked (h : ∀ e ∈ es, ∃ rule, Rule.read e.1 e.2 = .ok rule) :
    ((es.filterMap topOf).flatMap fun p => (Expression.value p.2).params)
        = (es.filter fun e => declares e && !fills e).map Prod.fst
      ∧ (es.filterMap fieldOf).map Prod.snd
        = (es.filter fun e => declares e && fills e).map Prod.fst := by
  induction es with
  | nil => exact ⟨rfl, rfl⟩
  | cons e es ih =>
    obtain ⟨rule, hrule⟩ := h e List.mem_cons_self
    obtain ⟨htop, hfield⟩ := asks_of_read hrule
    obtain ⟨ihTop, ihField⟩ := ih fun e he => h e (List.mem_cons_of_mem _ he)
    have hdeclares : declares e = !decide (rule = .port) := declares_of_read hrule
    have hfills : fills e = rule.field?.isSome := fills_of_read hrule
    rw [List.filterMap_cons, List.filterMap_cons, List.filter_cons, List.filter_cons, htop, hfield,
      hdeclares, hfills]
    cases rule with
    | passthrough => exact ⟨congrArg (e.1 :: ·) ihTop, ihField⟩
    | port => exact ⟨ihTop, ihField⟩
    | arg => exact ⟨congrArg (e.1 :: ·) ihTop, ihField⟩
    | argField field => exact ⟨ihTop, congrArg (e.1 :: ·) ihField⟩

/-- What is asked for takes its values from the parameters that are
declared, in order, those that fill fields behind the others. -/
theorem params_asked (h : ∀ e ∈ es, ∃ rule, Rule.read e.1 e.2 = .ok rule) :
    (asked es).params = (es.filter fun e => declares e && !fills e).map Prod.fst
      ++ (es.filter fun e => declares e && fills e).map Prod.fst := by
  obtain ⟨htop, hfields⟩ := reads_asked h
  have hvalues : ((es.filterMap fieldOf).map fun p => (p.1, Expression.value (.param p.2))).flatMap
      (fun p => p.2.params) = (es.filterMap fieldOf).map Prod.snd := by
    rw [List.flatMap_map, List.map_eq_flatMap]
    rfl
  rw [← htop, ← hfields, asked, Expression.params_object, List.flatMap_append, List.flatMap_map]
  refine congrArg _ ?_
  split
  · next hnone =>
    rw [List.isEmpty_map, List.isEmpty_iff] at hnone
    rw [hnone]
    rfl
  · rw [List.flatMap_singleton, Expression.params_object, hvalues]

/-- Where names are identifiers, what is asked for does not hold a
mark. -/
theorem unmarked_asked (hread : ∀ e ∈ es, ∃ rule, Rule.read e.1 e.2 = .ok rule)
    (hnames : ∀ e ∈ es, e.1.isIdentifier = true) : (asked es).Unmarked := by
  have harg : '?' ∉ argKey := by decide
  have hname : ∀ {n : Text}, n.isIdentifier = true → '?' ∉ n := fun h hc =>
    absurd (isIdentifierPart_of_isIdentifier h hc) (by decide)
  have hvalue : ∀ {v : PropertyValue}, (∀ name, v = .param name → name.isIdentifier = true) →
      (Expression.value v).Unmarked := by
    intro v hv
    cases v with
    | port => exact .port
    | param name => exact .param (hv name rfl)
  have hfields : ∀ p ∈ es.filterMap fieldOf,
      '?' ∉ p.1 ∧ (Expression.value (.param p.2)).Unmarked := by
    intro p hp
    obtain ⟨e, he, hp⟩ := List.mem_filterMap.1 hp
    obtain ⟨rule, hrule⟩ := hread e he
    obtain ⟨rfl, heq⟩ := read_of_fieldOf hrule hp
    have hfield : p.1.IsName := isName_of_readsAsIdentifier (Rule.readsAsIdentifier_of_read hrule)
    exact ⟨hfield.notMem (by decide), .param (heq ▸ hnames e he)⟩
  have hproperties : ∀ properties, asked es = .object properties →
      ∀ p ∈ properties, '?' ∉ p.1 ∧ p.2.Unmarked := by
    intro properties hasked p hp
    obtain rfl := Expression.object.inj hasked
    rcases List.mem_append.1 hp with hp | hp
    · obtain ⟨q, hq, rfl⟩ := List.mem_map.1 hp
      obtain ⟨e, he, hq⟩ := List.mem_filterMap.1 hq
      obtain ⟨hkey, hparam⟩ := isIdentifier_of_topOf hq (hnames e he)
      exact ⟨hname hkey, hvalue hparam⟩
    · split at hp
      · exact absurd hp List.not_mem_nil
      · obtain rfl := List.mem_singleton.1 hp
        refine ⟨harg, .object (fun q hq => ?_) fun q hq => ?_⟩
        · obtain ⟨p, hp, rfl⟩ := List.mem_map.1 hq
          exact (hfields p hp).1
        · obtain ⟨p, hp, rfl⟩ := List.mem_map.1 hq
          exact (hfields p hp).2
  exact .object (fun p hp => (hproperties _ rfl p hp).1) fun p hp => (hproperties _ rfl p hp).2

end CallObject

namespace ParamsType

variable {T : ParamsType} {n : Text}

/-- The lines of a type that reads nothing. -/
def recordLines (T : ParamsType) : List Text :=
  ["export type " ++ T.name ++ " = Record<string, unknown>;", ""]

/-- The plain record stands for a type just if nothing is declared. -/
theorem lines_eq_recordLines_iff : T.lines = T.recordLines ↔ T.fields = [] := by
  constructor
  · intro h
    by_contra hne
    have hempty : T.fields.isEmpty = false := by simpa using hne
    have hlength := congrArg List.length h
    have hsome : 0 < T.fields.length := List.length_pos_iff.2 hne
    rw [lines, hempty, if_neg Bool.false_ne_true, List.length_cons, List.length_append,
      List.length_map] at hlength
    have hrecord : T.recordLines.length = 2 := rfl
    have hclosing : closingLines.length = 2 := rfl
    omega
  · intro h
    rw [lines, h]
    rfl

/-- A line of an interface declares a name, and no other line does. -/
theorem fieldLine_mem_lines_iff : fieldLine n ∈ T.lines ↔ n ∈ T.fields := by
  -- only the lines that declare have a margin
  have hmargin : ∀ {l : Text} (x : Option Char), l.head? = x → x ≠ some ' ' → fieldLine n ≠ l := by
    rintro l x rfl hx rfl
    exact hx rfl
  unfold lines
  split
  · next hempty =>
    rw [List.isEmpty_iff] at hempty
    rw [hempty]
    refine iff_of_false (fun h => ?_) List.not_mem_nil
    rcases List.mem_cons.1 h with h | h
    · exact hmargin (some 'e') rfl (by decide) h
    · exact hmargin none rfl (by decide) (List.mem_singleton.1 h)
  · rw [List.mem_cons, List.mem_append, List.mem_map]
    constructor
    · rintro (h | ⟨f, hf, heq⟩ | h)
      · exact absurd h (hmargin (some 'e') rfl (by decide))
      · have hname : f = n := List.append_cancel_left (List.append_cancel_right heq)
        exact hname ▸ hf
      · rcases List.mem_cons.1 h with h | h
        · exact absurd h (hmargin (some '\x7d') rfl (by decide))
        · exact absurd (List.mem_singleton.1 h) (hmargin none rfl (by decide))
    · exact fun h => .inr (.inl ⟨n, h, rfl⟩)

end ParamsType

namespace Parameters

open CallObject

/-- The names that a method reads are those that are declared. -/
theorem fieldsOf_eq_ok {es : List (Text × Text)}
    (h : ∀ e ∈ es, ∃ rule, Rule.read e.1 e.2 = .ok rule) :
    fieldsOf es = .ok ((es.filter declares).map Prod.fst) := by
  induction es with
  | nil => rfl
  | cons e es ih =>
    obtain ⟨name, text⟩ := e
    obtain ⟨rule, hrule⟩ := h (name, text) List.mem_cons_self
    have hrest := ih fun e he => h e (List.mem_cons_of_mem _ he)
    have hdeclares := declares_of_read hrule
    rw [fieldsOf, hrule, hrest, List.filter_cons, hdeclares]
    by_cases hport : rule = .port
    · simp [hport]
    · simp [hport]

/-- Whether a name is one of a parameter that fills a field. -/
def fillsField (ps : Parameters) (n : Text) : Bool :=
  ps.entries.any fun e => e.1 == n && fills e

variable {ps : Parameters} {t : Text}

/-- A name tells whether its parameter fills a field. -/
theorem fillsField_of_mem {e : Text × Text} (he : e ∈ ps.entries) :
    ps.fillsField e.1 = fills e := by
  have hsame : ∀ e' ∈ ps.entries, e'.1 = e.1 → e' = e := fun e' he' heq =>
    List.inj_on_of_nodup_map ps.nodup he' he heq
  rw [Bool.eq_iff_iff, fillsField, List.any_eq_true]
  constructor
  · rintro ⟨e', he', h⟩
    rw [Bool.and_eq_true, beq_iff_eq] at h
    exact hsame e' he' h.1 ▸ h.2
  · exact fun h => ⟨e, he, by rw [beq_self_eq_true, h]; rfl⟩

/-- The names that are declared. -/
def declared (ps : Parameters) : List Text := (ps.entries.filter declares).map Prod.fst

theorem nodup_declared (ps : Parameters) : ps.declared.Nodup :=
  ps.nodup.sublist (List.filter_sublist.map Prod.fst)

/-- Those of the declared names that a class of parameters has. -/
theorem filter_declared {q : Text → Bool} {r : Text × Text → Bool}
    (hqr : ∀ e ∈ ps.entries, q e.1 = r e) :
    ps.declared.filter q = (ps.entries.filter fun e => declares e && r e).map Prod.fst := by
  rw [declared, List.filter_map, List.filter_filter]
  refine congrArg _ (List.filter_congr fun e he => ?_)
  rw [Function.comp_apply, hqr e he, Bool.and_comm]

/-- **The names that are read stand in the order of the declarations**,
those of the fields behind the others. -/
theorem namesRead_eq (h : ps.expression = .ok t)
    (hnames : ∀ e ∈ ps.entries, e.1.isIdentifier = true) :
    namesRead t
      = ps.declared.filter (fun n => !ps.fillsField n) ++ ps.declared.filter ps.fillsField := by
  obtain ⟨o, ho, -⟩ := expression_eq_ok_iff.1 h
  obtain ⟨hread, -⟩ := exists_ofParameters_iff.1 ⟨o, ho⟩
  have hreads : Reads t (asked ps.entries).params := by
    rw [eq_text_asked h]
    exact Expression.reads_text (unmarked_asked hread hnames)
  have hothers : ps.declared.filter (fun n => !ps.fillsField n)
      = (ps.entries.filter fun e => declares e && !fills e).map Prod.fst :=
    filter_declared fun e he => by rw [fillsField_of_mem he]
  have hfields : ps.declared.filter ps.fillsField
      = (ps.entries.filter fun e => declares e && fills e).map Prod.fst :=
    filter_declared fun e he => fillsField_of_mem he
  rw [hreads.namesRead_eq, params_asked hread, hothers, hfields]

/-- The entry of a handler with these parameters says what is passed and
what is declared. -/
theorem exists_entry (h : ps.expression = .ok t) {fs : List Text} (hfs : ps.fields = .ok fs)
    {d : Descriptor} (hd : d.parameters = ps) :
    ∃ e, Entry.ofDescriptor d = .ok e ∧ e.method.object = t ∧ e.type.fields = fs := by
  obtain ⟨e, he⟩ : ∃ e, Entry.ofDescriptor d = .ok e := by
    rw [Entry.ofDescriptor, hd, h, hfs]
    exact ⟨_, rfl⟩
  obtain ⟨hexpression, hfields, -⟩ := Entry.ofDescriptor_cases he
  rw [hd] at hexpression hfields
  exact ⟨e, he, Except.ok.inj (hexpression.symm.trans h), Except.ok.inj (hfields.symm.trans hfs)⟩

/-- **What is read in what a method passes is what is declared**, each name
once: in the order of the declarations, with the parameters that fill
fields behind the others. So an interface has a line for each name that the
method reads and for no other, and the plain record stands in its place
just if nothing is read. Both the type and the method stand with these lines
in the text of every class file that is laid out for the handler. -/
theorem namesRead_perm_fields (h : ps.expression = .ok t)
    (hnames : ∀ e ∈ ps.entries, e.1.isIdentifier = true) :
    ∃ fs, ps.fields = .ok fs ∧ fs.Nodup ∧ (namesRead t).Perm fs
      ∧ namesRead t = fs.filter (fun n => !ps.fillsField n) ++ fs.filter ps.fillsField
      ∧ ∀ d : Descriptor, d.parameters = ps → ∃ e T m, Entry.ofDescriptor d = .ok e
        ∧ ParamsType.ofDatum e.datum = .ok T ∧ Method.ofDatum e.datum = .ok m
        ∧ m.paramsType = T.name ∧ m.object = t
        ∧ (∀ n, ParamsType.fieldLine n ∈ T.lines ↔ n ∈ namesRead t)
        ∧ (T.lines = T.recordLines ↔ namesRead t = [])
        ∧ ∀ ds c, d ∈ ds → Context.ofDescriptors ds = .ok c →
          ∃ a, Artifact.ofData c.data = .ok a
            ∧ ofLines T.lines <:+: a.classText ∧ ofLines m.lines <:+: a.classText := by
  obtain ⟨o, ho, -⟩ := expression_eq_ok_iff.1 h
  obtain ⟨hread, -⟩ := exists_ofParameters_iff.1 ⟨o, ho⟩
  have hfields : ps.fields = .ok ps.declared := fieldsOf_eq_ok hread
  have horder := namesRead_eq h hnames
  have hperm : (namesRead t).Perm ps.declared := by
    rw [horder]
    exact List.perm_append_comm.trans (List.filter_append_perm _ _)
  refine ⟨ps.declared, hfields, ps.nodup_declared, hperm, horder, fun d hd => ?_⟩
  obtain ⟨e, he, hobject, htype⟩ := exists_entry h hfields hd
  refine ⟨e, e.type, e.method, he, e.typeOfDatum_datum, e.methodOfDatum_datum, rfl, hobject,
    fun n => ?_, ?_, fun ds c hds hc => ?_⟩
  · rw [ParamsType.fieldLine_mem_lines_iff, htype, hperm.mem_iff]
  · rw [ParamsType.lines_eq_recordLines_iff, htype]
    constructor
    · exact fun hnone => List.perm_nil.1 (hnone ▸ hperm)
    · exact fun hnone => List.nil_perm.1 (hnone ▸ hperm)
  · have hentry : e ∈ c.entries := Context.mem_entries hc hds he
    have htypes : e.type ∈ c.classFile.types := List.mem_map_of_mem hentry
    have hmethods : e.method ∈ c.classFile.methods := List.mem_map_of_mem hentry
    exact ⟨_, c.ofData_data, ClassFile.type_infix_text htypes,
      ClassFile.method_infix_text hmethods⟩

/-- A field, the port number and a parameter that is passed under its own
name. -/
def isolateWatch : Parameters :=
  .ofPairs [("since", "arg.since"), ("port", "port"), ("isolate", "")]

/-- Two names are declared, and they are read in the other order. -/
theorem namesRead_perm_fields_isolateWatch :
    ∃ t : Text, isolateWatch.expression = .ok t
      ∧ t = "\x7b port: port, isolate: params?.isolate, arg: \x7b since: params?.since \x7d \x7d"
      ∧ isolateWatch.fields = .ok ["since", "isolate"]
      ∧ namesRead t = ["isolate".toList, "since".toList]
      ∧ (namesRead t).Perm ["since", "isolate"] := by
  have htext : isolateWatch.expression
      = .ok "\x7b port: port, isolate: params?.isolate, arg: \x7b since: params?.since \x7d \x7d" :=
    rfl
  obtain ⟨fs, hfs, -, hperm, horder, -⟩ := namesRead_perm_fields htext (by decide)
  obtain rfl : ["since".toList, "isolate".toList] = fs := Except.ok.inj hfs
  exact ⟨_, htext, rfl, hfs, horder.trans (by decide), hperm⟩

end Parameters

end HandlerGen
