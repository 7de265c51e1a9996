import HandlerGen.Render.ClassFile
/-!
# The dispatch map

The generated file with a function that maps the name of every handler
to a closure calling its method. A closure passes the parameters on if
the handler has any. Where a name comes twice, the later entry of the
object literal wins.
-/

namespace HandlerGen

/-- One entry of the dispatch map. -/
structure DispatchEntry where
  /-- The literal of the handler's name. -/
  key : Text
  /-- Whether the parameters are passed on. -/
  passesParams : Bool
  /-- The method that is called. -/
  method : Text
deriving DecidableEq, Repr

/-- What the file of the dispatch map says. -/
structure DispatchMap where
  sources : List Text
  entries : List DispatchEntry
deriving DecidableEq, Repr

/-- The entry of a handler. -/
def DispatchEntry.ofDatum (d : Datum) : Except RenderFault DispatchEntry := do
  let key ← d.fieldLiteral "name"
  let passesParams ← d.fieldTruth "has_params"
  let method ← d.fieldText "method_name"
  return ⟨key, passesParams, method⟩

namespace DispatchEntry

/-- The line that opens the closure. -/
def openingLine (e : DispatchEntry) : Text := "    " ++ e.key ++ ": (request: any) => \x7b"

/-- The lines that call the method. -/
def callLines (e : DispatchEntry) : List Text :=
  if e.passesParams then
    ["      const params = request.params.arguments;",
      "      return rpcHandlers." ++ e.method ++ "(port, params);"]
  else ["      return rpcHandlers." ++ e.method ++ "(port);"]

/-- The line that closes the closure. -/
def closingLine : Text := "    \x7d,"

/-- The lines of an entry. -/
def lines (e : DispatchEntry) : List Text :=
  e.openingLine :: "      const port = handlePortParam(request);"
    :: (e.callLines ++ [closingLine])

end DispatchEntry

namespace DispatchMap

/-- Reads what the file says from named data. -/
def ofData (r : DataRecord) : Except RenderFault DispatchMap := do
  let sources ← sourcesOf r
  let entries ← (← r.items "handlers").mapM DispatchEntry.ofDatum
  return ⟨sources, entries⟩

/-- The lines between the header and the entries. -/
def openingLines : List Text :=
  ["import \x7b FlutterRpcHandlers \x7d from \"./flutter_rpc_handlers.generated.js\";",
    "",
    "/**",
    " * Generated createRpcHandlerMap method for the FlutterInspectorServer class.",
    " *",
    " * @param rpcHandlers The FlutterRpcHandlers instance",
    " * @param handlePortParam A function to extract the port parameter from a request",
    " * @returns A mapping of tool names to handler functions",
    " */",
    "export function createRpcHandlerMap(",
    "  rpcHandlers: FlutterRpcHandlers,",
    "  handlePortParam: (request: any) => number",
    "): Record<string, any> \x7b",
    "  return \x7b"]

/-- The lines that close the object literal and the function. -/
def closingLines : List Text := ["  \x7d;", "\x7d"]

/-- The lines of the file. -/
def lines (f : DispatchMap) : List Text :=
  headerLines f.sources ++ (openingLines ++ (f.entries.flatMap DispatchEntry.lines ++ closingLines))

/-- The text of the file. -/
def text (f : DispatchMap) : Text := Text.ofLines f.lines

end DispatchMap

end HandlerGen
