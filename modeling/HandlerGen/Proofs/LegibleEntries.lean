import HandlerGen.Proofs.Acceptance
import HandlerGen.Proofs.CallObject
import HandlerGen.Proofs.Layout
/-!
# Entries of checked names

What stands between the marks of a generated file cannot hold the marks,
since every entry of a descriptor with checked names is made of few
characters: its names and its fields of those of names, its object of those
of literals, and the lines of its comment hold no line end and no end of a
comment (`Entry.Legible`, `Entry.legible`). Accepted descriptors have
checked names.
-/

namespace HandlerGen

/-- The name of a function is made of the characters of names. -/
theorem CallPath.isName_function (p : CallPath) : p.function.IsName := by
  cases p with
  | dartVm => exact MadeOf.ofList (by decide)
  | flutterExtension => exact MadeOf.ofList (by decide)

namespace Entry

/-- An entry that can be told from what stands around it in a file. -/
structure Legible (e : Entry) : Prop where
  methodName : e.methodName.IsName
  paramsType : e.paramsType.IsName
  paramFields : ∀ f ∈ e.paramFields, f.IsName
  docLines : ∀ l ∈ e.docLines, '\n' ∉ l ∧ ¬ DocComment.closing <:+: l
  paramsExpression : CallObject.IsObject e.paramsExpression

/-- **The entry of a descriptor can be told if its name and those of its
parameters can be names.** -/
theorem legible {d : Descriptor} {e : Entry} (hname : d.name.IsName)
    (hparams : ∀ p ∈ d.parameters.entries.map Prod.fst, p.readsAsIdentifier = true)
    (h : ofDescriptor d = .ok e) : e.Legible := by
  obtain ⟨hexpression, hfields, -, hmethod, htype, hlines, -⟩ := ofDescriptor_cases h
  refine ⟨?_, ?_, fun f hf => ?_, fun l hl => ?_, ?_⟩
  · rw [hmethod]
    exact Naming.isName_methodName hname
  · rw [htype]
    exact Naming.isName_paramsTypeName hname
  · have hparam : f ∈ d.parameters.entries.map Prod.fst :=
      (Parameters.sublist_fieldsOf hfields).subset hf
    exact Text.isName_of_readsAsIdentifier (hparams f hparam)
  · rw [hlines] at hl
    exact ⟨DocComment.break_notMem_of_mem_lines hl, DocComment.closing_not_infix_of_mem_lines hl⟩
  · exact Parameters.isObject_of_expression hexpression hparams

end Entry

namespace Context

/-- So can all entries of a context that is made of accepted
descriptors. -/
theorem legible {ds : List Descriptor} {c : Context} (hds : ∀ d ∈ ds, d.Accepted)
    (h : ofDescriptors ds = .ok c) : ∀ e ∈ c.entries, e.Legible := by
  intro e he
  obtain ⟨d, hd, hentry⟩ := exists_of_mem_entries h he
  exact Entry.legible (Text.isName_of_readsAsSnakeCase (hds d hd).readsAsSnakeCase)
    (hds d hd).readsAsIdentifier hentry

/-- The sources of a context are among those of its descriptors. -/
theorem mem_sources {ds : List Descriptor} {c : Context} (h : ofDescriptors ds = .ok c) {s : Text}
    (hs : s ∈ c.sources) : ∃ d ∈ ds, d.source = s := by
  obtain ⟨-, -, hsources⟩ := ofDescriptors_cases h
  rw [hsources, sourceNames, mem_distinct] at hs
  exact List.mem_map.1 (List.mem_filter.1 hs).1

end Context

end HandlerGen
