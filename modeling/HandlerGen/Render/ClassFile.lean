import HandlerGen.Render.Datum
/-!
# The class file

The generated file with a class that has a method for every handler.
Before the class stands a type for the parameters of each handler, an
interface with the names that the method reads, or a plain record if it
reads none.

`ClassFile.ofData` reads what the file says from named data, in the
order in which the file says it, so that the first name that is not
there is the one that is reported. `ClassFile.text` lays the file out.
-/

namespace HandlerGen

/-- The type of the parameters of one handler. -/
structure ParamsType where
  name : Text
  /-- The names that the method reads. -/
  fields : List Text
deriving DecidableEq, Repr

/-- The method of one handler. -/
structure Method where
  /-- The lines of its doc comment. -/
  docLines : List Text
  name : Text
  /-- The name of the type of its parameters. -/
  paramsType : Text
  /-- Whether the debug mode is verified first. -/
  verifies : Bool
  /-- The function that makes the remote call. -/
  function : Text
  /-- The literal of the remote method. -/
  rpcMethod : Text
  /-- The object that is passed to the remote call. -/
  object : Text
  /-- Whether the result is wrapped into a response. -/
  wraps : Bool
deriving DecidableEq, Repr

/-- What the class file says. -/
structure ClassFile where
  /-- The names of the files that the handlers come from. -/
  sources : List Text
  types : List ParamsType
  methods : List Method
deriving DecidableEq, Repr

/-- The lines that open a generated file. -/
def headerLines (sources : List Text) : List Text :=
  ["// GENERATED CODE - DO NOT MODIFY BY HAND",
    "// This file is generated from " ++ List.intercalate ", " sources,
    "// Run \"generate-rpc-handlers\" to update",
    ""]

/-- The names of the source files among named data. -/
def sourcesOf (r : DataRecord) : Except RenderFault (List Text) := do
  return (← r.items "sources").map Datum.asText

/-- The type of the parameters of a handler. -/
def ParamsType.ofDatum (d : Datum) : Except RenderFault ParamsType := do
  if ← d.fieldTruth "param_fields" then
    let name ← d.fieldText "params_type"
    let fields ← d.fieldItems "param_fields"
    return ⟨name, fields.map Datum.asText⟩
  else return ⟨← d.fieldText "params_type", []⟩

/-- What a line of a doc comment says. What counts as false says
nothing. -/
def Method.lineOfDatum (d : Datum) : Text := if d.truth then d.asText else []

/-- The method of a handler. -/
def Method.ofDatum (d : Datum) : Except RenderFault Method := do
  let docLines ← d.fieldItems "doc_lines"
  let name ← d.fieldText "method_name"
  let paramsType ← d.fieldText "params_type"
  let verifies ← d.fieldTruth "needs_debug_verification"
  let function ← d.fieldText "invoke"
  let rpcMethod ← d.fieldLiteral "rpc_method"
  let object ← d.fieldText "params_expression"
  let wraps ← d.fieldTruth "response_wrapper"
  return ⟨docLines.map lineOfDatum, name, paramsType, verifies, function, rpcMethod, object, wraps⟩

namespace ParamsType

/-- A line that declares a name that the method reads. -/
def fieldLine (f : Text) : Text := "  " ++ f ++ "?: unknown;"

/-- The lines that close an interface. -/
def closingLines : List Text := ["\x7d", ""]

/-- The lines of a type, with the empty line behind it. -/
def lines (t : ParamsType) : List Text :=
  if t.fields.isEmpty then ["export type " ++ t.name ++ " = Record<string, unknown>;", ""]
  else ("export interface " ++ t.name ++ " \x7b") :: (t.fields.map fieldLine ++ closingLines)

end ParamsType

namespace Method

/-- A line of a doc comment with its margin. -/
def docLine (line : Text) : Text := "   *" ++ (if line.isEmpty then [] else ' ' :: line)

/-- The line that opens the method. -/
def signature (m : Method) : Text :=
  "  async " ++ m.name ++ "(port: number, params?: " ++ m.paramsType ++ "): Promise<unknown> \x7b"

/-- The line that verifies the debug mode, if it is there. -/
def verification (m : Method) : List Text :=
  if m.verifies then ["    await this.rpcUtils.verifyFlutterDebugMode(port);"] else []

/-- The line that makes the remote call. -/
def callLine (m : Method) : Text :=
  "    const result = await this.rpcUtils." ++ m.function ++ "(" ++ m.rpcMethod ++ ", port, "
    ++ m.object ++ ");"

/-- The line that returns the result. -/
def returnLine (m : Method) : Text :=
  if m.wraps then "    return this.rpcUtils.wrapResponse(Promise.resolve(result));"
  else "    return result;"

/-- The lines of a method behind those of its doc comment. -/
def bodyLines (m : Method) : List Text :=
  "   */" :: m.signature :: (m.verification ++ [m.callLine, m.returnLine, "  \x7d"])

/-- The lines of a method, with the empty line before it. -/
def lines (m : Method) : List Text :=
  "" :: "  /**" :: (m.docLines.map docLine ++ m.bodyLines)

end Method

namespace ClassFile

/-- Reads what the file says from named data. -/
def ofData (r : DataRecord) : Except RenderFault ClassFile := do
  let sources ← sourcesOf r
  let handlers ← r.items "handlers"
  let types ← handlers.mapM ParamsType.ofDatum
  let methods ← handlers.mapM Method.ofDatum
  return ⟨sources, types, methods⟩

/-- The lines between the header and the types. -/
def importLines : List Text := ["import \x7b RpcUtilities \x7d from \"./rpc_utilities.js\";", ""]

/-- The lines between the types and the methods. -/
def openingLines : List Text :=
  ["/**",
    " * Generated class containing handlers for Flutter RPC tools.",
    " *",
    " * Do not edit this file directly.",
    " */",
    "export class FlutterRpcHandlers \x7b",
    "  private rpcUtils: RpcUtilities;",
    "",
    "  constructor(rpcUtils: RpcUtilities) \x7b",
    "    this.rpcUtils = rpcUtils;",
    "  \x7d"]

/-- The line that closes the class. -/
def closingLines : List Text := ["\x7d"]

/-- The lines of the file. -/
def lines (f : ClassFile) : List Text :=
  headerLines f.sources ++ (importLines ++ (f.types.flatMap ParamsType.lines
    ++ (openingLines ++ (f.methods.flatMap Method.lines ++ closingLines))))

/-- The text of the file. -/
def text (f : ClassFile) : Text := Text.ofLines f.lines

end ClassFile

end HandlerGen
