import HandlerGen.Descriptor
/-!
# Accepted descriptors

What is known of a descriptor that a record was read as. The record had
all that the schema asks for (`Descriptor.ofValue_cases`), so the name
and the names of the parameters passed their checks
(`Descriptor.Accepted.readsAsSnakeCase`,
`Descriptor.Accepted.readsAsIdentifier`).
-/

namespace HandlerGen

/-- A sequence of steps gives what its second step makes of the first. -/
theorem exists_of_bind_eq_ok {ε α β : Type} {x : Except ε α} {f : α → Except ε β} {b : β}
    (h : x >>= f = .ok b) : ∃ a, x = .ok a ∧ f a = .ok b := by
  cases x with
  | error e => exact absurd h (by simp [bind, Except.bind])
  | ok a => exact ⟨a, rfl, h⟩

/-- A write to a new key goes to the end. -/
theorem Entries.put_of_notMem {κ α : Type} [DecidableEq κ] {k : κ} {a : α} {es : List (κ × α)}
    (h : k ∉ es.map Prod.fst) : put k a es = es ++ [(k, a)] := by
  induction es with
  | nil => rfl
  | cons e es ih =>
    obtain ⟨k', b⟩ := e
    rw [List.map_cons, List.mem_cons, not_or] at h
    rw [put, if_neg (Ne.symm h.1), ih h.2]
    rfl

/-- Entries with different keys are read one by one as they are. -/
theorem Entries.ofPairs_of_nodup {κ α : Type} [DecidableEq κ] {ps : List (κ × α)}
    (h : (ps.map Prod.fst).Nodup) : ofPairs ps = ps := by
  have hstep : ∀ ps es : List (κ × α), ((es ++ ps).map Prod.fst).Nodup →
      ps.foldl (fun es p => put p.1 p.2 es) es = es ++ ps := by
    intro ps
    induction ps with
    | nil => exact fun es _ => (List.append_nil es).symm
    | cons p ps ih =>
      intro es hes
      have hnew : p.1 ∉ es.map Prod.fst := by
        rw [List.map_append, List.nodup_append] at hes
        exact fun hmem => hes.2.2 p.1 hmem p.1 List.mem_cons_self rfl
      rw [List.append_cons] at hes
      rw [List.foldl_cons, put_of_notMem hnew, ih _ hes, ← List.append_cons]
  exact hstep ps [] h

namespace Descriptor

/-- A descriptor that some record is read as. -/
def Accepted (d : Descriptor) : Prop := ∃ source v, ofValue source v = .ok d

/-- **What a record must have to be read as a descriptor**, and what the
descriptor takes from it. -/
theorem ofValue_cases {source : Text} {v : Value} {d : Descriptor} (h : ofValue source v = .ok d) :
    ∃ record, v = .dict record ∧ d.source = source
      ∧ shownText? (field? record "name") = some d.name ∧ d.name.readsAsSnakeCase = true
      ∧ readFlag record d.name .needsDebugVerification = .ok d.needsDebugVerification
      ∧ readFlag record d.name .needsDartServiceExtensionProxy
          = .ok d.needsDartServiceExtensionProxy
      ∧ readFlag record d.name .responseWrapper = .ok d.responseWrapper
      ∧ readText record d.name "description" = .ok d.description
      ∧ readText record d.name "rpcMethod" = .ok d.rpcMethod
      ∧ readParameters record d.name = .ok d.parameters := by
  unfold ofValue at h
  split at h
  · next record =>
    split at h
    · next name hname =>
      split at h
      · next hshape =>
        obtain ⟨debug, hdebug, h⟩ := exists_of_bind_eq_ok h
        obtain ⟨proxy, hproxy, h⟩ := exists_of_bind_eq_ok h
        obtain ⟨wrapper, hwrapper, h⟩ := exists_of_bind_eq_ok h
        obtain ⟨description, hdescription, h⟩ := exists_of_bind_eq_ok h
        obtain ⟨rpcMethod, hrpcMethod, h⟩ := exists_of_bind_eq_ok h
        obtain ⟨parameters, hparameters, h⟩ := exists_of_bind_eq_ok h
        obtain rfl := Except.ok.inj h
        exact ⟨record, rfl, rfl, hname, hshape, hdebug, hproxy, hwrapper, hdescription,
          hrpcMethod, hparameters⟩
      · exact absurd h (by simp)
    · exact absurd h (by simp)
  · exact absurd h (by simp)

/-- Parameters that are read from a mapping have identifiers as names, if
those did that were there before. -/
theorem readsAsIdentifier_of_readEntries {name : Text} {es : List (Scalar × Value)}
    {ps qs : Parameters} (h : readEntries name ps es = .ok qs)
    (hps : ∀ p ∈ ps.entries.map Prod.fst, p.readsAsIdentifier = true) :
    ∀ p ∈ qs.entries.map Prod.fst, p.readsAsIdentifier = true := by
  have hput : ∀ {ps : Parameters} {param rule : Text}, param.readsAsIdentifier = true →
      (∀ p ∈ ps.entries.map Prod.fst, p.readsAsIdentifier = true) →
      ∀ p ∈ (ps.put param rule).entries.map Prod.fst, p.readsAsIdentifier = true := by
    intro ps param rule hparam hps p hp
    rcases Entries.mem_keys_put.1 hp with rfl | hp
    · exact hparam
    · exact hps p hp
  fun_induction readEntries name ps es with
  | case1 ps =>
    obtain rfl := Except.ok.inj h
    exact hps
  | case2 ps param es hparam ih => exact ih h (hput hparam hps)
  | case3 ps param es hparam t ih => exact ih h (hput hparam hps)
  | case4 => exact absurd h (by simp)
  | case5 => exact absurd h (by simp)
  | case6 => exact absurd h (by simp)

/-- The parameters of a record have identifiers as names. -/
theorem readsAsIdentifier_of_readParameters {record : List (Scalar × Value)} {name : Text}
    {ps : Parameters} (h : readParameters record name = .ok ps) :
    ∀ p ∈ ps.entries.map Prod.fst, p.readsAsIdentifier = true := by
  have hempty : ∀ p ∈ Parameters.empty.entries.map Prod.fst, p.readsAsIdentifier = true :=
    fun p hp => absurd hp List.not_mem_nil
  unfold readParameters at h
  split at h
  · exact Except.ok.inj h ▸ hempty
  · exact Except.ok.inj h ▸ hempty
  · exact readsAsIdentifier_of_readEntries h hempty
  · exact absurd h (by simp)

namespace Accepted

variable {d : Descriptor}

/-- The name passed the check on names. -/
theorem readsAsSnakeCase (h : d.Accepted) : d.name.readsAsSnakeCase = true := by
  obtain ⟨source, v, h⟩ := h
  obtain ⟨record, -, -, -, hshape, -⟩ := ofValue_cases h
  exact hshape

/-- The names of the parameters passed the check on identifiers. -/
theorem readsAsIdentifier (h : d.Accepted) :
    ∀ p ∈ d.parameters.entries.map Prod.fst, p.readsAsIdentifier = true := by
  obtain ⟨source, v, h⟩ := h
  obtain ⟨record, -, -, -, -, -, -, -, -, -, hparameters⟩ := ofValue_cases h
  exact readsAsIdentifier_of_readParameters hparameters

end Accepted

/-! ## What is accepted -/

/-- A descriptor that passes the checks of the schema. -/
structure PassesChecks (d : Descriptor) : Prop where
  name : d.name.readsAsSnakeCase = true
  nameShows : d.name.isBlank = false
  description : d.description.isBlank = false
  rpcMethod : d.rpcMethod.isBlank = false
  parameters : ∀ p ∈ d.parameters.entries.map Prod.fst, p.readsAsIdentifier = true

/-- The record that says what a descriptor holds. -/
def record (d : Descriptor) : List (Scalar × Value) :=
  [(.text "name", .scalar (.text d.name)),
    (.text "description", .scalar (.text d.description)),
    (.text "rpcMethod", .scalar (.text d.rpcMethod)),
    (.text "needsDebugVerification", .scalar (.bool d.needsDebugVerification)),
    (.text "needsDartServiceExtensionProxy", .scalar (.bool d.needsDartServiceExtensionProxy)),
    (.text "responseWrapper", .scalar (.bool d.responseWrapper)),
    (.text "parameters",
      .dict (d.parameters.entries.map fun e => (.text e.1, .scalar (.text e.2))))]

/-- Parameters that are read from their own names and rules go behind
those that were there before. -/
theorem readEntries_map {name : Text} {ps : Parameters} {es : List (Text × Text)}
    (hes : ∀ p ∈ es.map Prod.fst, p.readsAsIdentifier = true)
    (hnodup : ((ps.entries ++ es).map Prod.fst).Nodup) :
    readEntries name ps (es.map fun e => (.text e.1, .scalar (.text e.2)))
      = .ok ⟨ps.entries ++ es, hnodup⟩ := by
  induction es generalizing ps with
  | nil =>
    simp only [List.map_nil, readEntries, List.append_nil]
  | cons e es ih =>
    obtain ⟨param, rule⟩ := e
    have hparam : param.readsAsIdentifier = true := hes param List.mem_cons_self
    have hnew : param ∉ ps.entries.map Prod.fst := by
      intro hmem
      rw [List.map_append, List.nodup_append] at hnodup
      exact hnodup.2.2 param hmem param List.mem_cons_self rfl
    have hput : (ps.put param rule).entries = ps.entries ++ [(param, rule)] :=
      Entries.put_of_notMem hnew
    have hrest : ((ps.put param rule).entries ++ es) = ps.entries ++ (param, rule) :: es := by
      rw [hput, List.append_assoc, List.singleton_append]
    rw [List.map_cons, readEntries, if_pos hparam]
    simp only
    rw [ih (fun p hp => hes p (List.mem_cons_of_mem _ hp)) (by rwa [hrest])]
    simp only [hrest]

/-- **What passes the checks is read from its own record**, in any file. -/
theorem ofValue_record {d : Descriptor} (h : d.PassesChecks) (source : Text) :
    ofValue source (.dict d.record) = .ok { d with source } := by
  have hname : shownText? (field? d.record "name") = some d.name := by
    change (if d.name.isBlank = true then none else some d.name) = _
    rw [h.nameShows, if_neg Bool.false_ne_true]
  have hdescription : readText d.record d.name "description" = .ok d.description := by
    have hshown : shownText? (field? d.record "description") = some d.description := by
      change (if d.description.isBlank = true then none else some d.description) = _
      rw [h.description, if_neg Bool.false_ne_true]
    rw [readText, hshown]
  have hrpcMethod : readText d.record d.name "rpcMethod" = .ok d.rpcMethod := by
    have hshown : shownText? (field? d.record "rpcMethod") = some d.rpcMethod := by
      change (if d.rpcMethod.isBlank = true then none else some d.rpcMethod) = _
      rw [h.rpcMethod, if_neg Bool.false_ne_true]
    rw [readText, hshown]
  have hparameters : readParameters d.record d.name = .ok d.parameters := by
    change readEntries d.name .empty
      (d.parameters.entries.map fun e => (.text e.1, .scalar (.text e.2))) = _
    have hnodup : ((Parameters.empty.entries ++ d.parameters.entries).map Prod.fst).Nodup :=
      d.parameters.nodup
    exact readEntries_map h.parameters hnodup
  have hdebug : readFlag d.record d.name .needsDebugVerification
      = .ok d.needsDebugVerification := rfl
  have hproxy : readFlag d.record d.name .needsDartServiceExtensionProxy
      = .ok d.needsDartServiceExtensionProxy := rfl
  have hwrapper : readFlag d.record d.name .responseWrapper = .ok d.responseWrapper := rfl
  unfold ofValue
  simp only [hname, h.name, if_true, hdebug, hproxy, hwrapper, hdescription, hrpcMethod,
    hparameters]
  rfl

theorem accepted_of_passesChecks {d : Descriptor} (h : d.PassesChecks) : d.Accepted :=
  ⟨d.source, .dict d.record, ofValue_record h d.source⟩

/-- A text that shows is not blank. -/
theorem isBlank_of_shownText? {v : Option Value} {t : Text} (h : shownText? v = some t) :
    t.isBlank = false := by
  unfold shownText? at h
  split at h
  · split at h
    · exact absurd h (by simp)
    · next hblank =>
      obtain rfl := Option.some.inj h
      rwa [Bool.not_eq_true] at hblank
  · exact absurd h (by simp)

theorem isBlank_of_readText {record : List (Scalar × Value)} {name key t : Text}
    (h : readText record name key = .ok t) : t.isBlank = false := by
  unfold readText at h
  split at h
  · next hshown =>
    obtain rfl := Except.ok.inj h
    exact isBlank_of_shownText? hshown
  · exact absurd h (by simp)

/-- **The accepted descriptors are those that pass the checks.** The
source and the flags are free, and so are the texts of the rules. -/
theorem accepted_iff {d : Descriptor} : d.Accepted ↔ d.PassesChecks := by
  refine ⟨fun h => ?_, accepted_of_passesChecks⟩
  have hparameters := h.readsAsIdentifier
  obtain ⟨source, v, h⟩ := h
  obtain ⟨record, -, -, hname, hshape, -, -, -, hdescription, hrpcMethod, -⟩ := ofValue_cases h
  exact ⟨hshape, isBlank_of_shownText? hname, isBlank_of_readText hdescription,
    isBlank_of_readText hrpcMethod, hparameters⟩

/-- A handler whose description and remote method hold the marks of
comments and literals. -/
def hotReload : Descriptor where
  name := "hot_reload"
  description := "Reloads.\n\nNot */ the end."
  rpcMethod := "ext.\"reload\""
  needsDebugVerification := true
  parameters := .ofPairs [("port", "port"), ("count", "arg.count")]
  source := "core.yaml"

/-- It is accepted. -/
theorem accepted_hotReload : hotReload.Accepted :=
  accepted_iff.2 ⟨by decide, by decide, by decide, by decide, by decide⟩

/-- A handler without parameters. -/
def getVm : Descriptor where
  name := "get_vm"
  description := "Gets the VM."
  rpcMethod := "getVM"
  source := "core.yaml"

theorem accepted_getVm : getVm.Accepted :=
  accepted_iff.2 ⟨by decide, by decide, by decide, by decide, by decide⟩

end Descriptor

end HandlerGen
