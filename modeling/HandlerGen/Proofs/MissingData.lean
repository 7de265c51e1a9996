import HandlerGen.Proofs.Acceptance
import HandlerGen.Proofs.Layout
/-!
# Data that are not there

Each reader of a handler's data looks at some of its fields
(`ParamsType.looksAt`, `Method.looksAt`, `DispatchEntry.looksAt`), and
together they look at just those that an entry gives. A reader is not
touched by any other field, and where one that it looks at is not there
that is its fault, whichever the branch.

So **no datum that is not there counts as blank**
(`Artifact.missing_data_told`): the files are laid out from the data of
every context, each field of each handler is needed, and nothing but the
fields and the names of the sources counts.
-/

namespace HandlerGen

/-! ## Entries without a key -/

namespace Entries

variable {κ α : Type} [BEq κ] [LawfulBEq κ] {k k' : κ}

/-- Entries without those of a key. -/
def without (k : κ) (es : List (κ × α)) : List (κ × α) := es.filter (·.1 != k)

theorem without_cons_self (a : α) (es : List (κ × α)) : without k ((k, a) :: es) = without k es := by
  simp [without]

theorem without_cons_of_ne (h : k' ≠ k) (a : α) (es : List (κ × α)) :
    without k ((k', a) :: es) = (k', a) :: without k es := by
  simp [without, h]

theorem lookup_without_of_ne (h : k' ≠ k) (es : List (κ × α)) :
    (without k es).lookup k' = es.lookup k' := by
  induction es with
  | nil => rfl
  | cons e es ih =>
    obtain ⟨k₀, a⟩ := e
    by_cases h₀ : k₀ = k
    · subst h₀
      rw [without_cons_self, ih, List.lookup_cons, beq_eq_false_iff_ne.2 h]
    · rw [without_cons_of_ne h₀, List.lookup_cons, List.lookup_cons, ih]

theorem lookup_append_of_notMem {es further : List (κ × α)} (h : k ∉ further.map Prod.fst) :
    (es ++ further).lookup k = es.lookup k := by
  have hnone : further.lookup k = none := by
    rw [List.lookup_eq_none_iff]
    intro f hf
    have hne : k ≠ f.1 := fun heq => h (heq ▸ List.mem_map_of_mem hf)
    exact bne_iff_ne.2 hne
  rw [List.lookup_append, hnone, Option.or_none]

end Entries

/-! ## Changes of data -/

namespace Datum

/-- The names of the fields of a datum. -/
def names : Datum → List Text
  | record fields => fields.map Prod.fst
  | _ => []

/-- A record without the field of a name. -/
def without (name : Text) : Datum → Datum
  | record fields => record (Entries.without name fields)
  | d => d

/-- A record with further fields. -/
def extended (further : List (Text × Datum)) : Datum → Datum
  | record fields => record (fields ++ further)
  | d => d

/-- A list with one of its items changed. -/
def changeItem (i : Nat) (change : Datum → Datum) : Datum → Datum
  | list ds => list (ds.modify i change)
  | d => d

/-- Data of one kind that have the same in some fields. -/
structure AlikeIn (ns : List Text) (d e : Datum) : Prop where
  holder : d.holder = e.holder
  field? : ∀ n ∈ ns, d.field? n = e.field? n

variable {ns : List Text}

theorem alikeIn_without {name : Text} (h : name ∉ ns) (d : Datum) :
    (d.without name).AlikeIn ns d := by
  cases d with
  | record fields =>
    refine ⟨rfl, fun n hn => Entries.lookup_without_of_ne ?_ fields⟩
    rintro rfl
    exact h hn
  | _ => exact ⟨rfl, fun _ _ => rfl⟩

theorem alikeIn_extended {further : List (Text × Datum)}
    (h : ∀ f ∈ further, f.1 ∉ ns) (d : Datum) : (d.extended further).AlikeIn ns d := by
  cases d with
  | record fields =>
    refine ⟨rfl, fun n hn => Entries.lookup_append_of_notMem fun hmem => ?_⟩
    obtain ⟨f, hf, rfl⟩ := List.mem_map.1 hmem
    exact h f hf hn
  | _ => exact ⟨rfl, fun _ _ => rfl⟩

theorem AlikeIn.field {d e : Datum} (h : d.AlikeIn ns e) {n : Text} (hn : n ∈ ns) :
    d.field n = e.field n := by
  rw [Datum.field, Datum.field, h.field? n hn, h.holder]

theorem AlikeIn.fieldLiteral {d e : Datum} (h : d.AlikeIn ns e) {n : Text} (hn : n ∈ ns) :
    d.fieldLiteral n = e.fieldLiteral n := by
  rw [Datum.fieldLiteral, Datum.fieldLiteral, h.field? n hn]

end Datum

/-- Data with one of the handlers changed. -/
def DataRecord.changeHandler (i : Nat) (change : Datum → Datum) (r : DataRecord) : DataRecord :=
  r.map fun f => if f.1 = "handlers".toList then (f.1, f.2.changeItem i change) else f

/-! ## What the readers look at -/

/-- The fields that the type of a handler's parameters is read from. -/
def ParamsType.looksAt : List Text := ["param_fields", "params_type"]

/-- The fields that a method is read from. -/
def Method.looksAt : List Text :=
  ["doc_lines", "method_name", "params_type", "needs_debug_verification", "invoke", "rpc_method",
    "params_expression", "response_wrapper"]

/-- The fields that an entry of the dispatch map is read from. -/
def DispatchEntry.looksAt : List Text := ["name", "has_params", "method_name"]

/-- The fault of a handler without a field. Two fields go into the files
as literals, and what is not there has none. -/
def RenderFault.ofField (name : Text) : RenderFault :=
  if name = "name".toList ∨ name = "rpc_method".toList then .noLiteral
  else .missing "dict object" name

section Readers

variable {d d' : Datum} {n : Text}

theorem ParamsType.ofDatum_congr (h : d.AlikeIn looksAt d') : ofDatum d = ofDatum d' := by
  have hfields : d.field "param_fields" = d'.field "param_fields" := h.field (by decide)
  have htype : d.field "params_type" = d'.field "params_type" := h.field (by decide)
  simp only [ofDatum, Datum.fieldTruth, Datum.fieldText, Datum.fieldItems, hfields, htype]

theorem Method.ofDatum_congr (h : d.AlikeIn looksAt d') : ofDatum d = ofDatum d' := by
  have hlines : d.field "doc_lines" = d'.field "doc_lines" := h.field (by decide)
  have hname : d.field "method_name" = d'.field "method_name" := h.field (by decide)
  have htype : d.field "params_type" = d'.field "params_type" := h.field (by decide)
  have hdebug : d.field "needs_debug_verification" = d'.field "needs_debug_verification" :=
    h.field (by decide)
  have hinvoke : d.field "invoke" = d'.field "invoke" := h.field (by decide)
  have hrpc : d.fieldLiteral "rpc_method" = d'.fieldLiteral "rpc_method" :=
    h.fieldLiteral (by decide)
  have hobject : d.field "params_expression" = d'.field "params_expression" := h.field (by decide)
  have hwrap : d.field "response_wrapper" = d'.field "response_wrapper" := h.field (by decide)
  simp only [ofDatum, Datum.fieldTruth, Datum.fieldText, Datum.fieldItems, hlines, hname, htype,
    hdebug, hinvoke, hrpc, hobject, hwrap]

theorem DispatchEntry.ofDatum_congr (h : d.AlikeIn looksAt d') : ofDatum d = ofDatum d' := by
  have hkey : d.fieldLiteral "name" = d'.fieldLiteral "name" := h.fieldLiteral (by decide)
  have hparams : d.field "has_params" = d'.field "has_params" := h.field (by decide)
  have hmethod : d.field "method_name" = d'.field "method_name" := h.field (by decide)
  simp only [ofDatum, Datum.fieldTruth, Datum.fieldText, hkey, hparams, hmethod]

/-- The type of the parameters is not read without a field that it is
read from. -/
theorem ParamsType.ofDatum_without (e : Entry) (h : n ∈ looksAt) :
    ofDatum (e.datum.without n) = .error (.ofField n) := by
  simp only [looksAt, List.mem_cons, List.not_mem_nil, or_false] at h
  rcases h with rfl | rfl
  · rfl
  · -- the name is asked for in both branches
    have hread : ofDatum (e.datum.without "params_type") =
        if (!(e.paramFields.map Datum.text).isEmpty) = true then
          .error (.ofField "params_type")
        else .error (.ofField "params_type") := rfl
    rw [hread, ite_self]

theorem Method.ofDatum_without (e : Entry) (h : n ∈ looksAt) :
    ofDatum (e.datum.without n) = .error (.ofField n) := by
  simp only [looksAt, List.mem_cons, List.not_mem_nil, or_false] at h
  rcases h with rfl | rfl | rfl | rfl | rfl | rfl | rfl | rfl
  all_goals rfl

theorem DispatchEntry.ofDatum_without (e : Entry) (h : n ∈ looksAt) :
    ofDatum (e.datum.without n) = .error (.ofField n) := by
  simp only [looksAt, List.mem_cons, List.not_mem_nil, or_false] at h
  rcases h with rfl | rfl | rfl
  all_goals rfl

end Readers

/-! ## The handlers together -/

namespace Artifact

/-- Lays both files out once the names of the sources and the data of the
handlers are known. -/
def ofHandlers (sources : List Text) (ds : List Datum) : Except RenderFault Artifact := do
  let types ← ds.mapM ParamsType.ofDatum
  let methods ← ds.mapM Method.ofDatum
  let entries ← ds.mapM DispatchEntry.ofDatum
  return ⟨ClassFile.text ⟨sources, types, methods⟩, DispatchMap.text ⟨sources, entries⟩⟩

/-- **What the files are laid out from**: the names of the sources and the
data of the handlers. -/
theorem ofData_eq (r : DataRecord) :
    ofData r = if (r.lookup reservedName).isSome then .error .reserved
      else (do ofHandlers (← sourcesOf r) (← r.items "handlers")) := by
  unfold ofData ClassFile.ofData DispatchMap.ofData ofHandlers
  cases sourcesOf r with
  | error e => rfl
  | ok sources =>
    cases r.items "handlers" with
    | error e => rfl
    | ok ds =>
      simp only [bind, Except.bind]
      cases ds.mapM ParamsType.ofDatum with
      | error e => rfl
      | ok types =>
        cases ds.mapM Method.ofDatum with
        | error e => rfl
        | ok methods =>
          cases ds.mapM DispatchEntry.ofDatum with
          | error e => rfl
          | ok entries => rfl

end Artifact

namespace DataRecord

variable {r : DataRecord} {n : Text} {i : Nat} {change : Datum → Datum}

theorem lookup_changeHandler (r : DataRecord) (n : Text) :
    (r.changeHandler i change).lookup n
      = if n = "handlers".toList then (r.lookup n).map (·.changeItem i change) else r.lookup n := by
  induction r with
  | nil => exact (ite_self none).symm
  | cons f r ih =>
    obtain ⟨k, d⟩ := f
    rw [changeHandler, List.map_cons, ← changeHandler]
    by_cases hn : n = k
    · subst hn
      by_cases hk : n = "handlers".toList
      · rw [if_pos hk, if_pos hk, List.lookup_cons_self, List.lookup_cons_self]
        rfl
      · rw [if_neg hk, if_neg hk, List.lookup_cons_self, List.lookup_cons_self]
    · have hkey : (if k = "handlers".toList then (k, d.changeItem i change) else (k, d)).1 = k := by
        split
        · rfl
        · rfl
      rw [List.lookup_cons, List.lookup_cons, hkey, beq_eq_false_iff_ne.2 hn, ih]

theorem lookup_changeHandler_of_ne (h : n ≠ "handlers".toList) :
    (r.changeHandler i change).lookup n = r.lookup n := by
  rw [lookup_changeHandler, if_neg h]

/-- Only in a list of handlers there is one to be changed. -/
theorem items_changeHandler (r : DataRecord) (i : Nat) (change : Datum → Datum) :
    (r.changeHandler i change).items "handlers" = r.items "handlers"
      ∨ ∃ ds, r.items "handlers" = .ok ds
        ∧ (r.changeHandler i change).items "handlers" = .ok (ds.modify i change) := by
  unfold items
  rw [lookup_changeHandler, if_pos rfl]
  cases r.lookup "handlers".toList with
  | none => exact .inl rfl
  | some d =>
    cases d with
    | list ds => exact .inr ⟨ds, rfl, rfl⟩
    | _ => exact .inl rfl

end DataRecord

namespace Artifact

variable {r s : DataRecord} {i : Nat} {change : Datum → Datum}

theorem sourcesOf_congr (h : r.lookup "sources".toList = s.lookup "sources".toList) :
    sourcesOf r = sourcesOf s := by
  unfold sourcesOf DataRecord.items
  rw [h]

/-- Data that have the same under the names that count are laid out
alike. -/
theorem ofData_congr (h : ∀ n ∈ [reservedName, "sources".toList, "handlers".toList],
    r.lookup n = s.lookup n) : ofData r = ofData s := by
  have hreserved := h reservedName (by decide)
  have hsources := h "sources".toList (by decide)
  have hhandlers := h "handlers".toList (by decide)
  have hitems : r.items "handlers" = s.items "handlers" := by
    unfold DataRecord.items
    rw [hhandlers]
  rw [ofData_eq, ofData_eq, hreserved, sourcesOf_congr hsources, hitems]

/-- A change of a handler that touches no reader does not count. -/
theorem ofData_changeHandler_of_eq
    (htype : ∀ d, ParamsType.ofDatum (change d) = ParamsType.ofDatum d)
    (hmethod : ∀ d, Method.ofDatum (change d) = Method.ofDatum d)
    (hentry : ∀ d, DispatchEntry.ofDatum (change d) = DispatchEntry.ofDatum d) :
    ofData (r.changeHandler i change) = ofData r := by
  have hrows : ∀ sources ds, ofHandlers sources (ds.modify i change) = ofHandlers sources ds := by
    intro sources ds
    rw [ofHandlers, mapM_modify_of_eq htype, mapM_modify_of_eq hmethod, mapM_modify_of_eq hentry,
      ← ofHandlers]
  have hreserved : (r.changeHandler i change).lookup reservedName = r.lookup reservedName :=
    DataRecord.lookup_changeHandler_of_ne (by decide)
  have hsources : sourcesOf (r.changeHandler i change) = sourcesOf r :=
    sourcesOf_congr (DataRecord.lookup_changeHandler_of_ne (by decide))
  rw [ofData_eq, ofData_eq, hreserved, hsources]
  rcases r.items_changeHandler i change with hitems | ⟨ds, hds, hitems⟩
  · rw [hitems]
  · rw [hitems, hds]
    simp only [bind, Except.bind, hrows]

end Artifact

namespace Entry

/-- The names of the fields that an entry gives. -/
def fieldNames : List Text :=
  ["name", "method_name", "params_type", "param_fields", "doc_lines", "rpc_method",
    "needs_debug_verification", "invoke", "params_expression", "response_wrapper", "has_params"]

theorem names_datum (e : Entry) : e.datum.names = fieldNames := rfl

/-- **An entry gives the fields that are looked at**, and no other. -/
theorem mem_fieldNames_iff {n : Text} :
    n ∈ fieldNames ↔ n ∈ ParamsType.looksAt ∨ n ∈ Method.looksAt ∨ n ∈ DispatchEntry.looksAt := by
  have hgiven : ∀ n ∈ fieldNames,
      n ∈ ParamsType.looksAt ∨ n ∈ Method.looksAt ∨ n ∈ DispatchEntry.looksAt := by decide
  have hlooked : ∀ n ∈ ParamsType.looksAt ++ (Method.looksAt ++ DispatchEntry.looksAt),
      n ∈ fieldNames := by decide
  refine ⟨hgiven n, fun h => hlooked n ?_⟩
  rwa [List.mem_append, List.mem_append]

end Entry

namespace Context

variable {c : Context} {i : Nat} {e : Entry} {n : Text}

/-- The data of a context with one of the handlers changed are laid out
from the changed list. -/
theorem ofData_changeHandler (c : Context) (i : Nat) (change : Datum → Datum) :
    Artifact.ofData (c.data.changeHandler i change)
      = Artifact.ofHandlers c.sources ((c.entries.map Entry.datum).modify i change) := by
  have hsources : sourcesOf (c.data.changeHandler i change) = .ok c.sources := c.sourcesOf_data
  rw [Artifact.ofData_eq, hsources]
  rfl

/-- **Without one of its fields a handler is refused**, whichever it
is. -/
theorem ofData_without_field (he : c.entries[i]? = some e) (hn : n ∈ Entry.fieldNames) :
    Artifact.ofData (c.data.changeHandler i (Datum.without n)) = .error (.ofField n) := by
  have hplace : (c.entries.map Entry.datum)[i]? = some e.datum := by
    rw [List.getElem?_map, he]
    rfl
  have hfails {β : Type} {f : Datum → Except RenderFault β} {g : Entry → β}
      (hf : ∀ e : Entry, f e.datum = .ok (g e)) (hx : f (e.datum.without n) = .error (.ofField n)) :
      ((c.entries.map Entry.datum).modify i (Datum.without n)).mapM f = .error (.ofField n) := by
    refine mapM_modify_of_error (fun d hd => ?_) hplace hx
    obtain ⟨e, -, rfl⟩ := List.mem_map.1 hd
    exact ⟨g e, hf e⟩
  rw [ofData_changeHandler, Artifact.ofHandlers]
  -- the first reader that looks at the field refuses the handler
  by_cases htype : n ∈ ParamsType.looksAt
  · rw [hfails Entry.typeOfDatum_datum (ParamsType.ofDatum_without e htype)]
    rfl
  · rw [mapM_modify_of_eq fun d => ParamsType.ofDatum_congr (Datum.alikeIn_without htype d),
      mapM_map_eq_ok Entry.typeOfDatum_datum]
    by_cases hmethod : n ∈ Method.looksAt
    · rw [hfails Entry.methodOfDatum_datum (Method.ofDatum_without e hmethod)]
      rfl
    · rw [mapM_modify_of_eq fun d => Method.ofDatum_congr (Datum.alikeIn_without hmethod d),
        mapM_map_eq_ok Entry.methodOfDatum_datum]
      have hentry : n ∈ DispatchEntry.looksAt :=
        ((Entry.mem_fieldNames_iff.1 hn).resolve_left htype).resolve_left hmethod
      rw [hfails Entry.dispatchOfDatum_datum (DispatchEntry.ofDatum_without e hentry)]
      rfl

end Context

namespace Artifact

/-- Further fields of a handler do not count. -/
theorem ofData_extended {further : List (Text × Datum)} (r : DataRecord) (i : Nat)
    (h : ∀ f ∈ further, f.1 ∉ Entry.fieldNames) :
    ofData (r.changeHandler i (Datum.extended further)) = ofData r := by
  have hother : ∀ f ∈ further, f.1 ∉ ParamsType.looksAt ∧ f.1 ∉ Method.looksAt
      ∧ f.1 ∉ DispatchEntry.looksAt := by
    intro f hf
    rw [← not_or, ← not_or, ← Entry.mem_fieldNames_iff]
    exact h f hf
  exact ofData_changeHandler_of_eq
    (fun d => ParamsType.ofDatum_congr (Datum.alikeIn_extended (fun f hf => (hother f hf).1) d))
    (fun d => Method.ofDatum_congr (Datum.alikeIn_extended (fun f hf => (hother f hf).2.1) d))
    (fun d => DispatchEntry.ofDatum_congr
      (Datum.alikeIn_extended (fun f hf => (hother f hf).2.2) d))

theorem message?_missing : ∀ n ∈ Entry.fieldNames, (RenderFault.missing "dict object" n).message?
    = some ("'dict object' has no attribute '" ++ n ++ "'") := by
  decide

/-- **No datum that is not there counts as blank.** The files are laid out
from the data of every context. Without one of the eleven fields of one of
its handlers, or without the handlers or the sources, there is a fault that
names what is not there; the name of the handler and the remote method are
literals, and a literal that is not there has a fault without a wording.
Nothing else counts: neither the other data of a context nor further fields
of a handler, in any data. -/
theorem missing_data_told (c : Context) :
    (∃ a, ofData c.data = .ok a)
    ∧ (∀ e ∈ c.entries, e.datum.names = Entry.fieldNames)
    ∧ (∀ i < c.entries.length, ∀ n ∈ Entry.fieldNames,
        (n = "name" ∨ n = "rpc_method" →
          ofData (c.data.changeHandler i (Datum.without n)) = .error .noLiteral)
        ∧ (n ≠ "name" → n ≠ "rpc_method" →
          ofData (c.data.changeHandler i (Datum.without n)) = .error (.missing "dict object" n)
            ∧ (RenderFault.missing "dict object" n).message?
              = some ("'dict object' has no attribute '" ++ n ++ "'")))
    ∧ (∀ n ∈ ["handlers".toList, "sources".toList],
        ofData (Entries.without n c.data) = .error (.undefined n)
          ∧ (RenderFault.undefined n).message? = some ("'" ++ n ++ "' is undefined"))
    ∧ (∀ (r : DataRecord), ∀ n ∈ ["handler_count".toList, "duplicates".toList],
        ofData (Entries.without n r) = ofData r
          ∧ ∀ d, ofData (Entries.put n d r) = ofData r)
    ∧ ∀ (r : DataRecord) (i : Nat) (further : List (Text × Datum)),
        (∀ f ∈ further, f.1 ∉ Entry.fieldNames) →
        ofData (r.changeHandler i (Datum.extended further)) = ofData r := by
  refine ⟨⟨_, c.ofData_data⟩, fun e _ => e.names_datum, fun i hi n hn => ?_, fun n hn => ?_,
    fun r n hn => ?_, fun r i further => ofData_extended r i⟩
  · have hfault := c.ofData_without_field (List.getElem?_eq_getElem hi) hn
    refine ⟨fun h => ?_, fun hname hrpc => ⟨?_, message?_missing n hn⟩⟩
    · rw [hfault, RenderFault.ofField, if_pos h]
    · rw [hfault, RenderFault.ofField, if_neg (not_or.2 ⟨hname, hrpc⟩)]
  · rw [List.mem_cons, List.mem_singleton] at hn
    rcases hn with rfl | rfl
    · exact ⟨rfl, by decide⟩
    · exact ⟨rfl, by decide⟩
  · have hne : ∀ m ∈ [reservedName, "sources".toList, "handlers".toList], m ≠ n := by
      rw [List.mem_cons, List.mem_singleton] at hn
      rcases hn with rfl | rfl <;> decide
    exact ⟨ofData_congr fun m hm => Entries.lookup_without_of_ne (hne m hm) r,
      fun d => ofData_congr fun m hm => (Entries.lookup_put n m d r).trans (if_neg (hne m hm))⟩

/-- Without its remote method the second of two handlers has no literal,
without its flag for parameters it is told by the key, and a note beside
them is not seen. -/
theorem missing_data_told_getVm :
    ∃ c, Context.ofDescriptors [.hotReload, .getVm] = .ok c
      ∧ ofData (c.data.changeHandler 1 (Datum.without "rpc_method")) = .error .noLiteral
      ∧ ofData (c.data.changeHandler 1 (Datum.without "has_params"))
        = .error (.missing "dict object" "has_params")
      ∧ ofData (Entries.without "sources".toList c.data) = .error (.undefined "sources")
      ∧ ofData (Entries.without "duplicates".toList c.data) = ofData c.data
      ∧ ofData (c.data.changeHandler 0 (Datum.extended [("note", .null)])) = ofData c.data := by
  obtain ⟨c, hc⟩ : ∃ c, Context.ofDescriptors [.hotReload, .getVm] = .ok c := ⟨_, rfl⟩
  have hlength : c.entries.length = 2 := by
    simpa using (congrArg List.length (Context.ofDescriptors_cases hc).1).symm
  have hsecond : 1 < c.entries.length := by rw [hlength]; decide
  obtain ⟨-, -, hfields, hnamed, hothers, hfurther⟩ := missing_data_told c
  exact ⟨c, hc, (hfields 1 hsecond "rpc_method" (by decide)).1 (.inr rfl),
    ((hfields 1 hsecond "has_params" (by decide)).2 (by decide) (by decide)).1,
    (hnamed "sources".toList (by decide)).1, (hothers c.data "duplicates".toList (by decide)).1,
    hfurther c.data 0 _ (by decide)⟩

end Artifact

end HandlerGen
