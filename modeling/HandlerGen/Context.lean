import HandlerGen.CallObject
import HandlerGen.Descriptor
import HandlerGen.DocComment
import HandlerGen.Naming
import HandlerGen.Render.Datum
/-!
# The context of the generated files

Both generated files are laid out from one context: an entry for each
descriptor, in order (`Entry.ofDescriptor`), the names that are defined
more than once, and the names of the files they come from. A handler
whose parameters have rules that cannot be met is refused, and with it
the whole context (`Context.ofDescriptors`).
-/

namespace HandlerGen

/-- The path that a remote call takes. -/
inductive CallPath
  | dartVm
  | flutterExtension
deriving DecidableEq, Repr

/-- The function that takes a path. -/
def CallPath.function : CallPath → Text
  | dartVm => "callDartVm"
  | flutterExtension => "callFlutterExtension"

/-- What the generated files say of one handler. -/
structure Entry where
  name : Text
  methodName : Text
  paramsType : Text
  paramFields : List Text
  docLines : List Text
  rpcMethod : Text
  needsDebugVerification : Bool
  callPath : CallPath
  paramsExpression : Text
  responseWrapper : Bool
  hasParams : Bool
deriving DecidableEq

/-- The fault of a handler's rules, with the place of the handler. -/
structure HandlerFault where
  source : Text
  name : Text
  fault : RuleFault
deriving DecidableEq

/-- The wording of a handler's fault. -/
def HandlerFault.message (e : HandlerFault) : Text :=
  e.source ++ ": handler '" ++ e.name ++ "': " ++ e.fault.message

/-- The entry of a descriptor. -/
def Entry.ofDescriptor (d : Descriptor) : Except HandlerFault Entry :=
  match d.parameters.expression, d.parameters.fields with
  | .error e, _ => .error ⟨d.source, d.name, e⟩
  | .ok _, .error e => .error ⟨d.source, d.name, e⟩
  | .ok expression, .ok fields =>
    .ok {
      name := d.name
      methodName := Naming.methodName d.name
      paramsType := Naming.paramsTypeName d.name
      paramFields := fields
      docLines := DocComment.lines d.description
      rpcMethod := d.rpcMethod
      needsDebugVerification := d.needsDebugVerification
      callPath := if d.needsDartServiceExtensionProxy then .flutterExtension else .dartVm
      paramsExpression := expression
      responseWrapper := d.responseWrapper
      hasParams := !d.parameters.isEmpty }

/-- The members of a list, each at its first place. -/
def distinct : List Text → List Text
  | [] => []
  | t :: ts => t :: (distinct ts).filter (· != t)

/-- Every member keeps its place. -/
theorem mem_distinct {t : Text} {ts : List Text} : t ∈ distinct ts ↔ t ∈ ts := by
  induction ts with
  | nil => exact Iff.rfl
  | cons u ts ih =>
    rw [distinct, List.mem_cons, List.mem_cons, List.mem_filter, ih]
    by_cases h : t = u
    · simp [h]
    · simp [h]

/-- No member comes twice. -/
theorem nodup_distinct (ts : List Text) : (distinct ts).Nodup := by
  induction ts with
  | nil => exact List.nodup_nil
  | cons u ts ih =>
    rw [distinct, List.nodup_cons]
    refine ⟨fun h => ?_, ih.filter _⟩
    rw [List.mem_filter] at h
    simp at h

/-- The names that more than one descriptor has, in the order in which
they come first. -/
def duplicateNames (ds : List Descriptor) : List Text :=
  let names := ds.map Descriptor.name
  (distinct names).filter fun n => 1 < names.count n

/-- The files that descriptors name as their source, in the order in
which they come first. -/
def sourceNames (ds : List Descriptor) : List Text :=
  distinct ((ds.map Descriptor.source).filter (!·.isEmpty))

/-- What both generated files are laid out from. -/
structure Context where
  entries : List Entry
  duplicates : List Text
  sources : List Text
deriving DecidableEq

namespace Context

/-- The entries of descriptors, in order. -/
def entriesOf : List Descriptor → Except HandlerFault (List Entry)
  | [] => .ok []
  | d :: ds =>
    match Entry.ofDescriptor d with
    | .error e => .error e
    | .ok entry =>
      match entriesOf ds with
      | .error e => .error e
      | .ok entries => .ok (entry :: entries)

/-- The context of descriptors. -/
def ofDescriptors (ds : List Descriptor) : Except HandlerFault Context :=
  match entriesOf ds with
  | .error e => .error e
  | .ok entries => .ok ⟨entries, duplicateNames ds, sourceNames ds⟩

/-- The warning about a name that is defined more than once. -/
def warning (name : Text) : Text :=
  "Warning: handler '" ++ name
    ++ "' is defined more than once; the last definition wins in the dispatch map\n"

/-- The warnings of a context, a line for each name that is defined more
than once. -/
def warnings (c : Context) : Text := c.duplicates.flatMap warning

end Context

/-- A list of texts as a datum. -/
def Datum.ofTexts (ts : List Text) : Datum := .list (ts.map .text)

/-- An entry as a datum. -/
def Entry.datum (e : Entry) : Datum :=
  .record [
    ("name", .text e.name),
    ("method_name", .text e.methodName),
    ("params_type", .text e.paramsType),
    ("param_fields", .ofTexts e.paramFields),
    ("doc_lines", .ofTexts e.docLines),
    ("rpc_method", .text e.rpcMethod),
    ("needs_debug_verification", .bool e.needsDebugVerification),
    ("invoke", .text e.callPath.function),
    ("params_expression", .text e.paramsExpression),
    ("response_wrapper", .bool e.responseWrapper),
    ("has_params", .bool e.hasParams)]

/-- A context as named data. -/
def Context.data (c : Context) : DataRecord :=
  [("handlers", .list (c.entries.map Entry.datum)),
    ("handler_count", .int c.entries.length),
    ("duplicates", .ofTexts c.duplicates),
    ("sources", .ofTexts c.sources)]

end HandlerGen
