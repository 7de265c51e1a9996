import HandlerGen.Proofs.Acceptance
import HandlerGen.Proofs.DeclaredNames
import HandlerGen.Proofs.Outcome
/-!
# Refused rules

Parameters are added one by one, so that they are refused for the last one
of the shortest list that is refused, and what is behind it does not
matter. Where the key `arg` is contended for, the literal that was built so
far knows the other party: its owner is the one parameter before that asks
for the key (`CallObject.owner_addAll`), and without one there are fields.
So **a message names the parameter that is refused, and if another party,
one of those before it** (`RuleFault.LiesAt`).

The entries of a context are made one by one too, and **a context is refused
for the first descriptor whose parameters are** (`Context.blames_first`).
-/

namespace HandlerGen

namespace RuleFault

/-- The parameter that a message is about. -/
def param : RuleFault → Text
  | badField param _ => param
  | unrecognized param _ => param
  | argTaken param _ => param
  | argOwned param _ _ => param

/-- Whether two parties contend for the key `arg`. -/
def isConflict : RuleFault → Bool
  | argTaken _ _ => true
  | argOwned _ _ _ => true
  | _ => false

/-- The parameter that a message names as the owner of the key `arg`. -/
def owner? : RuleFault → Option Text
  | argTaken _ owner => owner
  | argOwned _ _ owner => some owner
  | _ => none

/-- A message opens with the parameter that it is about. -/
theorem param_prefix_message (f : RuleFault) :
    ("Parameter '" ++ f.param ++ "': " : Text) <+: f.message := by
  have hopens {u v w : Text} (h : v <+: w) : u ++ f.param ++ v <+: u ++ f.param ++ w := by
    obtain ⟨rest, rfl⟩ := h
    exact ⟨rest, List.append_assoc _ _ _⟩
  have hlonger {s u v : Text} (h : s <+: u) : s <+: u ++ v := h.trans (List.prefix_append u v)
  cases f with
  | badField param rule => exact hlonger (hopens (by decide))
  | unrecognized param rule => exact hlonger (hlonger (hopens (by decide)))
  | argTaken param owner => exact hlonger (hopens (by decide))
  | argOwned param field owner =>
    exact hlonger (hlonger (hlonger (hlonger (hopens (by decide)))))

/-- A message ends with the owner that it names. -/
theorem owner_suffix_message {f : RuleFault} {owner : Text} (h : f.owner? = some owner)
    (hne : owner ≠ []) : ("'" ++ owner ++ "'" : Text) <:+ f.message := by
  cases f with
  | badField param rule => exact absurd h (by simp [owner?])
  | unrecognized param rule => exact absurd h (by simp [owner?])
  | argTaken param owner' =>
    obtain rfl : owner' = some owner := h
    cases owner with
    | nil => exact absurd rfl hne
    | cons c t =>
      exact ⟨"Parameter '" ++ param ++ "': top-level 'arg' key cannot be combined with ", rfl⟩
  | argOwned param field owner' =>
    obtain rfl := Option.some.inj h
    have hends {u v w : Text} (h : u <:+ w) :
        (u ++ owner' ++ "'" : Text) <:+ v ++ w ++ owner' ++ "'" := by
      obtain ⟨rest, rfl⟩ := h
      exact ⟨v ++ rest, by simp only [List.append_assoc]⟩
    exact hends ⟨"' cannot be combined with the top-level 'arg' key from ", by decide⟩

/-- Or with the fields, if it names no owner. -/
theorem fields_suffix_message {f : RuleFault} (h : f.isConflict = true) (howner : f.owner? = none) :
    ("an 'arg.<field>' rule" : Text) <:+ f.message := by
  cases f with
  | argTaken param owner =>
    obtain rfl : owner = none := howner
    exact List.suffix_append _ _
  | argOwned param field owner => exact absurd howner (by simp [owner?])
  | _ => exact absurd h (by simp [isConflict])

end RuleFault

/-- A text that is no rule is no conflict. -/
theorem Rule.fault_of_read {name text : Text} {f : RuleFault} (h : Rule.read name text = .error f) :
    f.param = name ∧ f.isConflict = false ∧ f.owner? = none := by
  unfold Rule.read at h
  split at h
  · exact absurd h (by simp)
  · exact absurd h (by simp)
  · exact absurd h (by simp)
  · split at h
    · exact absurd h (by simp)
    · obtain rfl := Except.error.inj h
      exact ⟨rfl, rfl, rfl⟩
  · obtain rfl := Except.error.inj h
    exact ⟨rfl, rfl, rfl⟩

namespace CallObject

variable {o o' : CallObject} {es : List (Text × Text)} {name text : Text} {f : RuleFault}

/-- **Why a parameter is not added**: its rule cannot be read, or there is
a conflict with the owner of the key `arg` or, without one, with the
fields. -/
theorem add_eq_error (h : o.add name text = .error f) :
    f.param = name
      ∧ (f.isConflict = false ∧ f.owner? = none
        ∨ f.isConflict = true ∧ f.owner? = o.owner ∧ (o.owner = none → o.nested ≠ [])) := by
  unfold add at h
  cases hrule : Rule.read name text with
  | error e =>
    rw [hrule] at h
    obtain rfl := Except.error.inj h
    obtain ⟨hparam, hfault⟩ := Rule.fault_of_read hrule
    exact ⟨hparam, .inl hfault⟩
  | ok rule =>
    simp only [hrule] at h
    split at h
    · next hclash =>
      obtain rfl := Except.error.inj h
      refine ⟨rfl, .inr ⟨rfl, rfl, fun howner => ?_⟩⟩
      simpa [howner] using (Bool.and_eq_true_iff.1 hclash).2
    · cases rule with
      | passthrough => exact absurd h (by simp)
      | port => exact absurd h (by simp)
      | arg => exact absurd h (by simp)
      | argField field =>
        cases howner : o.owner with
        | none => exact absurd h (by simp [howner])
        | some other =>
          simp only [howner] at h
          obtain rfl := Except.error.inj h
          exact ⟨rfl, .inr ⟨rfl, rfl, fun hnone => absurd hnone (by simp)⟩⟩

/-- The parameters of one list are added after those of the other. -/
theorem addAll_append (o : CallObject) (es fs : List (Text × Text)) :
    o.addAll (es ++ fs) = o.addAll es >>= (·.addAll fs) := by
  induction es generalizing o with
  | nil => rfl
  | cons e es ih =>
    obtain ⟨name, text⟩ := e
    rw [List.cons_append, addAll, addAll]
    cases o.add name text with
    | error f => rfl
    | ok o' => exact ih o'

/-- **Parameters are refused for the first that is not added.** -/
theorem exists_of_addAll_eq_error (h : o.addAll es = .error f) :
    ∃ before name text after o', es = before ++ (name, text) :: after
      ∧ o.addAll before = .ok o' ∧ o'.add name text = .error f := by
  induction es generalizing o with
  | nil => exact absurd h (by simp [addAll])
  | cons e es ih =>
    obtain ⟨name, text⟩ := e
    cases hadd : o.add name text with
    | error f' =>
      rw [addAll, hadd] at h
      obtain rfl := Except.error.inj h
      exact ⟨[], name, text, es, o, rfl, rfl, hadd⟩
    | ok o₁ =>
      rw [addAll, hadd] at h
      obtain ⟨before, name', text', after, o', rfl, hbefore, hrefused⟩ := ih h
      refine ⟨(name, text) :: before, name', text', after, o', rfl, ?_, hrefused⟩
      rw [addAll, hadd]
      exact hbefore

/-- A parameter that asks for the key `arg` is its owner from then on. -/
theorem owner_add (h : o.add name text = .ok o') :
    o'.owner.toList = o.owner.toList ++ ([(name, text)].filter asksForArg).map Prod.fst := by
  obtain ⟨rule, hrule, hcase⟩ := add_cases h
  have hasks := asksForArg_of_read hrule
  rcases hcase with ⟨p, -, -, -, hfree, howner⟩ | ⟨field, rfl, -, rfl⟩
  · cases hneeds : needsArg name rule with
    | false => simp [howner, hasks, hneeds]
    | true => simp [howner, hasks, hneeds, (hfree hneeds).1]
  · have hnot : asksForArg (name, text) = false := hasks
    simp [hnot]

/-- **The owner is the parameter that asks for the key `arg`.** -/
theorem owner_addAll (h : o.addAll es = .ok o') :
    o'.owner.toList = o.owner.toList ++ (es.filter asksForArg).map Prod.fst := by
  induction es generalizing o with
  | nil =>
    obtain rfl := Except.ok.inj h
    exact (List.append_nil _).symm
  | cons e es ih =>
    obtain ⟨name, text⟩ := e
    cases hadd : o.add name text with
    | error f =>
      rw [addAll, hadd] at h
      exact absurd h (by simp)
    | ok o₁ =>
      rw [addAll, hadd] at h
      rw [ih h, owner_add hadd, List.append_assoc, ← List.map_append, ← List.filter_append,
        List.singleton_append]

end CallObject

/-- **Where rules are at fault.** The parameters before are accepted, and
with the one that the fault is about they are refused, whatever follows. In
a conflict the other party is before it: the one parameter there that asks
for the key `arg` at the top, or, without one, a parameter with a field. -/
structure RuleFault.LiesAt (f : RuleFault) (before : List (Text × Text)) (rule : Text) : Prop where
  accepted : ∀ qs : Parameters, qs.entries <+: before → ∃ t, qs.expression = .ok t
  refused : ∀ qs : Parameters, before ++ [(f.param, rule)] <+: qs.entries →
    qs.expression = .error f
  owner : ∀ n, f.owner? = some n → ∃ r, before.filter CallObject.asksForArg = [(n, r)]
  fields : f.isConflict = true → f.owner? = none →
    before.filter CallObject.asksForArg = [] ∧ ∃ e ∈ before, (CallObject.fieldOf e).isSome

namespace Parameters

open CallObject

variable {ps : Parameters} {f : RuleFault}

theorem expression_eq_error_iff : ps.expression = .error f ↔ addAll {} ps.entries = .error f := by
  unfold expression ofParameters
  cases addAll {} ps.entries with
  | error e => simp [Except.map]
  | ok o => simp [Except.map]

/-- **Refused parameters are at fault somewhere.** -/
theorem exists_liesAt (h : ps.expression = .error f) :
    ∃ before rule after, ps.entries = before ++ (f.param, rule) :: after
      ∧ f.LiesAt before rule := by
  obtain ⟨before, name, rule, after, o, hentries, hbefore, hadd⟩ :=
    exists_of_addAll_eq_error (expression_eq_error_iff.1 h)
  obtain ⟨rfl, hfault⟩ := add_eq_error hadd
  obtain ⟨-, -, hnested⟩ := addAll_eq_ok hbefore
  have howner : o.owner.toList = (before.filter asksForArg).map Prod.fst := owner_addAll hbefore
  refine ⟨before, rule, after, hentries, ?_, ?_, fun n hn => ?_, fun hconflict hnone => ?_⟩
  · rintro qs ⟨more, rfl⟩
    rw [addAll_append] at hbefore
    obtain ⟨o₁, ho₁, -⟩ := exists_of_bind_eq_ok hbefore
    exact ⟨_, expression_eq_ok_iff.2 ⟨o₁, ho₁, rfl⟩⟩
  · rintro qs ⟨more, hqs⟩
    rw [expression_eq_error_iff, ← hqs, List.append_assoc, addAll_append, hbefore]
    change o.addAll ((f.param, rule) :: more) = _
    rw [addAll, hadd]
  · have hsome : o.owner = some n := by
      rcases hfault with ⟨-, hnone⟩ | ⟨-, hsame, -⟩
      · exact absurd (hnone.symm.trans hn) (by simp)
      · exact hsame.symm.trans hn
    rw [hsome, Option.toList_some] at howner
    obtain ⟨p, hp, hname⟩ := List.map_eq_singleton_iff.1 howner.symm
    exact ⟨p.2, hp.trans (by rw [← hname])⟩
  · have hnot : o.owner = none ∧ o.nested ≠ [] := by
      rcases hfault with ⟨hno, -⟩ | ⟨-, hsame, hfields⟩
      · exact absurd (hno.symm.trans hconflict) (by simp)
      · exact ⟨hsame.symm.trans hnone, hfields (hsame.symm.trans hnone)⟩
    rw [hnot.1, Option.toList_none, eq_comm, List.map_eq_nil_iff] at howner
    refine ⟨howner, ?_⟩
    obtain ⟨p, hp⟩ := List.exists_mem_of_ne_nil _ hnot.2
    rw [hnested] at hp
    obtain ⟨e, he, hfield⟩ := List.mem_filterMap.1 hp
    exact ⟨e, he, by rw [hfield]; rfl⟩

end Parameters

/-- Where there is an object to pass, there are names to declare. -/
theorem Parameters.exists_fields {ps : Parameters} {t : Text} (h : ps.expression = .ok t) :
    ∃ fs, ps.fields = .ok fs := by
  obtain ⟨o, ho, -⟩ := expression_eq_ok_iff.1 h
  exact ⟨_, fieldsOf_eq_ok (CallObject.addAll_eq_ok ho).1⟩

/-! ## Descriptors -/

namespace Entry

variable {d : Descriptor}

/-- A descriptor has no entry just if its parameters are refused. -/
theorem ofDescriptor_eq_error_iff {e : HandlerFault} :
    ofDescriptor d = .error e ↔
      ∃ f, d.parameters.expression = .error f ∧ e = ⟨d.source, d.name, f⟩ := by
  unfold ofDescriptor
  cases hexpression : d.parameters.expression with
  | error f => simp [eq_comm]
  | ok t =>
    obtain ⟨fs, hfields⟩ := Parameters.exists_fields hexpression
    rw [hfields]
    simp

theorem exists_ofDescriptor_iff :
    (∃ e, ofDescriptor d = .ok e) ↔ ∃ t, d.parameters.expression = .ok t := by
  constructor
  · rintro ⟨e, he⟩
    obtain ⟨hexpression, -⟩ := ofDescriptor_cases he
    exact ⟨_, hexpression⟩
  · rintro ⟨t, ht⟩
    obtain ⟨fs, hfields⟩ := Parameters.exists_fields ht
    obtain ⟨e, he, -⟩ := Parameters.exists_entry ht hfields rfl
    exact ⟨e, he⟩

end Entry

namespace Context

variable {ds : List Descriptor} {e : HandlerFault}

theorem ofDescriptors_eq_error :
    ofDescriptors ds = .error e ↔ ds.mapM Entry.ofDescriptor = .error e := by
  rw [ofDescriptors, entriesOf_eq_mapM]
  cases ds.mapM Entry.ofDescriptor with
  | error e => simp
  | ok entries => simp

/-- **Which descriptor a context is refused for**, and for what: the first
whose parameters are refused. -/
structure FirstRefused (ds before : List Descriptor) (d : Descriptor) (f : RuleFault) : Prop where
  placed : before ++ [d] <+: ds
  accepted : ∀ b ∈ before, ∃ t, b.parameters.expression = .ok t
  refused : d.parameters.expression = .error f

/-- **The first descriptor whose parameters are refused decides.** -/
theorem ofDescriptors_eq_error_iff :
    ofDescriptors ds = .error e ↔
      ∃ before d f, FirstRefused ds before d f ∧ e = ⟨d.source, d.name, f⟩ := by
  rw [ofDescriptors_eq_error, mapM_eq_error_iff]
  simp only [Entry.exists_ofDescriptor_iff, Entry.ofDescriptor_eq_error_iff]
  constructor
  · rintro ⟨before, d, after, rfl, hbefore, f, hf, he⟩
    exact ⟨before, d, f, ⟨⟨after, (List.append_cons _ _ _).symm⟩, hbefore, hf⟩, he⟩
  · rintro ⟨before, d, f, ⟨⟨after, rfl⟩, hbefore, hf⟩, he⟩
    exact ⟨before, d, after, (List.append_cons _ _ _).symm, hbefore, f, hf, he⟩

theorem exists_ofDescriptors_eq_error_iff :
    (∃ e, ofDescriptors ds = .error e) ↔ ∃ d ∈ ds, ∃ f, d.parameters.expression = .error f := by
  have hrefused {d : Descriptor} : (∃ e, Entry.ofDescriptor d = .error e) ↔
      ∃ f, d.parameters.expression = .error f := by
    simp only [Entry.ofDescriptor_eq_error_iff]
    exact ⟨fun ⟨e, f, hf, _⟩ => ⟨f, hf⟩, fun ⟨f, hf⟩ => ⟨_, f, hf, rfl⟩⟩
  simp only [ofDescriptors_eq_error, exists_mapM_eq_error_iff, hrefused]

/-- **A message about rules blames the right place.** There is one just if
some descriptor's parameters are refused, it is about the first of these,
and a run prints it and nothing else. It opens with the parameter that the
fault is about, which is where the fault lies, and in a conflict it ends
with the other party; what is behind that parameter or behind that
descriptor does not matter. -/
theorem blames_first (hds : ∀ d ∈ ds, d.Accepted) :
    ((∃ e, ofDescriptors ds = .error e) ↔ ∃ d ∈ ds, ∃ f, d.parameters.expression = .error f)
    ∧ ∀ e, ofDescriptors ds = .error e →
      (∀ more, ofDescriptors (ds ++ more) = .error e)
      ∧ (∀ fs inputs out, HandlerFile.loadAll fs inputs = .ok ds →
        Generation.run fs inputs out
          = ⟨.ok 1, [], "Error generating RPC handlers: " ++ e.message ++ "\n", fs⟩)
      ∧ ∃ before d f, FirstRefused ds before d f
        ∧ e.message = d.source ++ ": handler '" ++ d.name ++ "': " ++ f.message
        ∧ ∃ earlier rule later, d.parameters.entries = earlier ++ (f.param, rule) :: later
          ∧ f.LiesAt earlier rule
          ∧ (∀ d' more, d'.source = d.source → d'.name = d.name →
            earlier ++ [(f.param, rule)] <+: d'.parameters.entries →
            ofDescriptors (before ++ d' :: more) = .error e)
          ∧ ("Parameter '" ++ f.param ++ "': " : Text) <+: f.message
          ∧ (∀ owner, f.owner? = some owner → ("'" ++ owner ++ "'" : Text) <:+ f.message)
          ∧ (f.isConflict = true → f.owner? = none →
            ("an 'arg.<field>' rule" : Text) <:+ f.message) := by
  refine ⟨exists_ofDescriptors_eq_error_iff, fun e he => ?_⟩
  obtain ⟨before, d, f, hfirst, rfl⟩ := ofDescriptors_eq_error_iff.1 he
  obtain ⟨earlier, rule, later, hentries, hlies⟩ := Parameters.exists_liesAt hfirst.refused
  have hd : d.Accepted := hds d (hfirst.placed.subset (List.mem_append_right _ (.head _)))
  refine ⟨fun more => ?_, fun fs inputs out hload => ?_, before, d, f, hfirst, rfl, earlier, rule,
    later, hentries, hlies, fun d' more hsource hname hmore => ?_, f.param_prefix_message,
    fun owner howner => ?_, RuleFault.fields_suffix_message⟩
  · have hplaced : before ++ [d] <+: ds ++ more := hfirst.placed.trans (List.prefix_append _ _)
    exact ofDescriptors_eq_error_iff.2
      ⟨before, d, f, ⟨hplaced, hfirst.accepted, hfirst.refused⟩, rfl⟩
  · exact (Generation.Ends.refused (Generation.draft_of_handlerFault hload he) rfl).run_eq
  · have hplaced : before ++ [d'] <+: before ++ d' :: more :=
      ⟨more, (List.append_cons _ _ _).symm⟩
    have hrefused : d'.parameters.expression = .error f := hlies.refused d'.parameters hmore
    rw [← hsource, ← hname]
    exact ofDescriptors_eq_error_iff.2
      ⟨before, d', f, ⟨hplaced, hfirst.accepted, hrefused⟩, rfl⟩
  · obtain ⟨r, hr⟩ := hlies.owner owner howner
    have hearlier : (owner, r) ∈ earlier :=
      List.mem_of_mem_filter (hr ▸ List.mem_singleton_self _)
    have hparam : owner ∈ d.parameters.entries.map Prod.fst :=
      List.mem_map.2 ⟨_, hentries ▸ List.mem_append_left _ hearlier, rfl⟩
    refine RuleFault.owner_suffix_message howner ?_
    rintro rfl
    exact absurd (hd.readsAsIdentifier [] hparam) (by decide)

end Context

/-- A handler with two parties that contend for the key `arg`, and with a
text behind them that is no rule. -/
def Descriptor.watchIsolate : Descriptor where
  name := "watch_isolate"
  description := "Watches an isolate."
  rpcMethod := "watchIsolate"
  parameters := .ofPairs [("isolate", "arg"), ("since", "arg.since"), ("until", "after")]
  source := "watch.yaml"

/-- It is blamed for the first two, whatever follows. -/
theorem Context.blames_first_watchIsolate :
    (∀ d ∈ [Descriptor.getVm, .watchIsolate], d.Accepted)
      ∧ ∃ e, ofDescriptors [.getVm, .watchIsolate] = .error e
        ∧ e.message = "watch.yaml: handler 'watch_isolate': Parameter 'since': 'arg.since' cannot "
          ++ "be combined with the top-level 'arg' key from 'isolate'"
        ∧ ∀ more, ofDescriptors ([.getVm, .watchIsolate] ++ more) = .error e := by
  have hwatch : Descriptor.watchIsolate.Accepted :=
    Descriptor.accepted_iff.2 ⟨by decide, by decide, by decide, by decide, by decide⟩
  have haccepted : ∀ d ∈ [Descriptor.getVm, .watchIsolate], d.Accepted :=
    List.forall_mem_cons.2 ⟨Descriptor.accepted_getVm, List.forall_mem_singleton.2 hwatch⟩
  have hrefused : ofDescriptors [.getVm, .watchIsolate]
      = .error ⟨"watch.yaml", "watch_isolate", .argOwned "since" "since" "isolate"⟩ := by
    decide +kernel
  obtain ⟨-, hblames⟩ := blames_first haccepted
  obtain ⟨hmore, -⟩ := hblames _ hrefused
  exact ⟨haccepted, _, hrefused, by decide +kernel, hmore⟩

end HandlerGen
