import HandlerGen.Generation
import HandlerGen.Proofs.Rows
import Mathlib.Data.List.Infix
/-!
# What the generated files say

The files that are laid out from a context say of each entry, in order,
what the entry holds: `Context.classFile` and `Context.dispatchMap` are
the files as structures, and **laying out succeeds on every context**
(`Context.ofData_data`). The entries of a context are those of its
descriptors one by one (`Context.ofDescriptors_cases`).
-/

namespace HandlerGen

/-! ## From entries to files -/

/-- The type of the parameters that an entry asks for. -/
def Entry.type (e : Entry) : ParamsType where
  name := e.paramsType
  fields := e.paramFields

/-- The method that an entry asks for. -/
def Entry.method (e : Entry) : Method where
  docLines := e.docLines
  name := e.methodName
  paramsType := e.paramsType
  verifies := e.needsDebugVerification
  function := e.callPath.function
  rpcMethod := e.rpcMethod.literal
  object := e.paramsExpression
  wraps := e.responseWrapper

/-- The entry of the dispatch map that an entry asks for. -/
def Entry.dispatch (e : Entry) : DispatchEntry where
  key := e.name.literal
  passesParams := e.hasParams
  method := e.methodName

/-- The class file of a context. -/
def Context.classFile (c : Context) : ClassFile where
  sources := c.sources
  types := c.entries.map Entry.type
  methods := c.entries.map Entry.method

/-- The dispatch map of a context. -/
def Context.dispatchMap (c : Context) : DispatchMap where
  sources := c.sources
  entries := c.entries.map Entry.dispatch

/-! ## Reading the data of a context -/

theorem Datum.map_asText_map_text (ts : List Text) : (ts.map Datum.text).map Datum.asText = ts := by
  rw [List.map_map]
  exact List.map_id ts

namespace Entry

theorem typeOfDatum_datum (e : Entry) : ParamsType.ofDatum e.datum = .ok e.type := by
  have hread : ParamsType.ofDatum e.datum =
      if (!(e.paramFields.map Datum.text).isEmpty) = true then
        .ok ⟨e.paramsType, (e.paramFields.map Datum.text).map Datum.asText⟩
      else .ok ⟨e.paramsType, []⟩ := rfl
  rw [hread, Datum.map_asText_map_text, type]
  cases e.paramFields with
  | nil => rfl
  | cons f fs => rfl

/-- A line of a comment goes into the file as it is. -/
theorem map_lineOfDatum_map_text (ls : List Text) :
    (ls.map Datum.text).map Method.lineOfDatum = ls := by
  rw [List.map_map]
  refine (List.map_congr_left fun l _ => ?_).trans (List.map_id ls)
  cases l with
  | nil => rfl
  | cons c l => rfl

theorem methodOfDatum_datum (e : Entry) : Method.ofDatum e.datum = .ok e.method := by
  have hlines : Method.ofDatum e.datum =
      .ok { e.method with docLines := (e.docLines.map Datum.text).map Method.lineOfDatum } := rfl
  rw [hlines, map_lineOfDatum_map_text]
  rfl

theorem dispatchOfDatum_datum (e : Entry) : DispatchEntry.ofDatum e.datum = .ok e.dispatch := rfl

end Entry

namespace Context

theorem sourcesOf_data (c : Context) : sourcesOf c.data = .ok c.sources := by
  have hsources : sourcesOf c.data = .ok ((c.sources.map Datum.text).map Datum.asText) := rfl
  rw [hsources, Datum.map_asText_map_text]

theorem items_handlers_data (c : Context) :
    c.data.items "handlers" = .ok (c.entries.map Entry.datum) := rfl

/-- The class file says what the entries hold. -/
theorem classFileOfData_data (c : Context) : ClassFile.ofData c.data = .ok c.classFile := by
  rw [ClassFile.ofData, sourcesOf_data, items_handlers_data]
  change (do
    let types ← (c.entries.map Entry.datum).mapM ParamsType.ofDatum
    let methods ← (c.entries.map Entry.datum).mapM Method.ofDatum
    return (⟨c.sources, types, methods⟩ : ClassFile)) = _
  rw [mapM_map_eq_ok Entry.typeOfDatum_datum, mapM_map_eq_ok Entry.methodOfDatum_datum]
  rfl

/-- The dispatch map says what the entries hold. -/
theorem dispatchMapOfData_data (c : Context) : DispatchMap.ofData c.data = .ok c.dispatchMap := by
  rw [DispatchMap.ofData, sourcesOf_data, items_handlers_data]
  change (do
    let entries ← (c.entries.map Entry.datum).mapM DispatchEntry.ofDatum
    return (⟨c.sources, entries⟩ : DispatchMap)) = _
  rw [mapM_map_eq_ok Entry.dispatchOfDatum_datum]
  rfl

/-- **Laying out succeeds on every context.** -/
theorem ofData_data (c : Context) :
    Artifact.ofData c.data = .ok ⟨c.classFile.text, c.dispatchMap.text⟩ := by
  have hreserved : (c.data.lookup Artifact.reservedName).isSome = false := rfl
  rw [Artifact.ofData, hreserved, if_neg Bool.false_ne_true, classFileOfData_data,
    dispatchMapOfData_data]
  rfl

/-! ## Lines in texts -/

end Context

/-- What stands among the lines of a file stands in its text. -/
theorem Text.ofLines_infix {ls ms : List Text} (h : ls <:+: ms) : ofLines ls <:+: ofLines ms :=
  h.flatMap _

namespace ClassFile

variable {f : ClassFile}

/-- **The lines of each type stand in the text of the class file.** -/
theorem type_infix_text {t : ParamsType} (h : t ∈ f.types) : Text.ofLines t.lines <:+: f.text := by
  have htypes : t.lines <:+: f.types.flatMap ParamsType.lines :=
    List.infix_of_mem_flatten (List.mem_map_of_mem h)
  have hlines : f.types.flatMap ParamsType.lines <:+: f.lines :=
    List.infix_append_of_infix_right (List.infix_append' _ _ _)
  exact Text.ofLines_infix (htypes.trans hlines)

/-- **So do those of each method.** -/
theorem method_infix_text {m : Method} (h : m ∈ f.methods) :
    Text.ofLines m.lines <:+: f.text := by
  have hmethods : m.lines <:+: f.methods.flatMap Method.lines :=
    List.infix_of_mem_flatten (List.mem_map_of_mem h)
  have hlines : f.methods.flatMap Method.lines <:+: f.lines :=
    List.infix_append_of_infix_right (List.infix_append_of_infix_right
      (List.infix_append_of_infix_right (List.infix_append' _ _ _)))
  exact Text.ofLines_infix (hmethods.trans hlines)

end ClassFile

namespace Context

/-! ## The entries of a context -/

theorem entriesOf_eq_mapM (ds : List Descriptor) : entriesOf ds = ds.mapM Entry.ofDescriptor := by
  induction ds with
  | nil => rfl
  | cons d ds ih =>
    rw [entriesOf, List.mapM_cons, ih]
    cases Entry.ofDescriptor d with
    | error e => rfl
    | ok entry =>
      cases ds.mapM Entry.ofDescriptor with
      | error e => rfl
      | ok entries => rfl

/-- The entries are those of the descriptors, one by one and in order. -/
theorem entriesOf_eq_ok_iff {ds : List Descriptor} {es : List Entry} :
    entriesOf ds = .ok es ↔ ds.map Entry.ofDescriptor = es.map .ok := by
  rw [entriesOf_eq_mapM, mapM_eq_ok_iff]

/-- What a context is made of. -/
theorem eq_of_ofDescriptors {ds : List Descriptor} {c : Context} (h : ofDescriptors ds = .ok c) :
    ∃ es, entriesOf ds = .ok es ∧ c = ⟨es, duplicateNames ds, sourceNames ds⟩ := by
  unfold ofDescriptors at h
  split at h
  · exact absurd h (by simp)
  · next es hes => exact ⟨es, hes, (Except.ok.inj h).symm⟩

theorem ofDescriptors_cases {ds : List Descriptor} {c : Context} (h : ofDescriptors ds = .ok c) :
    ds.map Entry.ofDescriptor = c.entries.map .ok
      ∧ c.duplicates = duplicateNames ds ∧ c.sources = sourceNames ds := by
  obtain ⟨es, hes, rfl⟩ := eq_of_ofDescriptors h
  exact ⟨entriesOf_eq_ok_iff.1 hes, rfl, rfl⟩

/-- Every descriptor has its entry in the context. -/
theorem mem_entries {ds : List Descriptor} {c : Context} (h : ofDescriptors ds = .ok c)
    {d : Descriptor} (hd : d ∈ ds) {e : Entry} (he : Entry.ofDescriptor d = .ok e) :
    e ∈ c.entries := by
  have hmem : Except.ok e ∈ c.entries.map (Except.ok : Entry → Except HandlerFault Entry) := by
    rw [← (ofDescriptors_cases h).1, ← he]
    exact List.mem_map_of_mem hd
  obtain ⟨e', he', heq⟩ := List.mem_map.1 hmem
  exact Except.ok.inj heq ▸ he'

/-- Every entry of a context is that of a descriptor. -/
theorem exists_of_mem_entries {ds : List Descriptor} {c : Context} (h : ofDescriptors ds = .ok c)
    {e : Entry} (he : e ∈ c.entries) : ∃ d ∈ ds, Entry.ofDescriptor d = .ok e := by
  have hmem : Except.ok e ∈ ds.map Entry.ofDescriptor := by
    rw [(ofDescriptors_cases h).1]
    exact List.mem_map_of_mem he
  exact List.mem_map.1 hmem

end Context

/-- **What an entry holds**: what the description, the name, the flags and
the rules of its descriptor give. -/
theorem Entry.ofDescriptor_cases {d : Descriptor} {e : Entry} (h : ofDescriptor d = .ok e) :
    d.parameters.expression = .ok e.paramsExpression
      ∧ d.parameters.fields = .ok e.paramFields
      ∧ e.name = d.name ∧ e.methodName = Naming.methodName d.name
      ∧ e.paramsType = Naming.paramsTypeName d.name
      ∧ e.docLines = DocComment.lines d.description ∧ e.rpcMethod = d.rpcMethod
      ∧ e.needsDebugVerification = d.needsDebugVerification
      ∧ e.callPath = (if d.needsDartServiceExtensionProxy then .flutterExtension else .dartVm)
      ∧ e.responseWrapper = d.responseWrapper
      ∧ e.hasParams = !d.parameters.isEmpty := by
  unfold ofDescriptor at h
  split at h
  · exact absurd h (by simp)
  · exact absurd h (by simp)
  · next expression fields hexpression hfields =>
    obtain rfl := Except.ok.inj h
    exact ⟨hexpression, hfields, rfl, rfl, rfl, rfl, rfl, rfl, rfl, rfl, rfl⟩

end HandlerGen
