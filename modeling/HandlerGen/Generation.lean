import HandlerGen.Context
import HandlerGen.HandlerFile
import HandlerGen.Render.DispatchMap
/-!
# A run of the generator

A run reads handler files, builds the context of their descriptors, lays
both files out from it and writes them into a directory. Nothing is
written before everything has been laid out; the class file is written
before the dispatch map.

A run says what it has done: the paths of the two files on its output,
a warning for every name that is defined more than once among its
messages, and in the end the exit status (`Generation.run`). A fault
with a message is reported, and the exit status is one; any other fault
escapes the run.
-/

namespace HandlerGen

/-- The texts of both generated files. -/
structure Artifact where
  classText : Text
  mapText : Text
deriving DecidableEq, Repr

namespace Artifact

/-- The name that stands for the layout itself, so that no datum may
have it. -/
def reservedName : Text := "self"

/-- Lays both files out from named data. -/
def ofData (r : DataRecord) : Except RenderFault Artifact :=
  if (r.lookup reservedName).isSome then .error .reserved
  else do
    let classFile ← ClassFile.ofData r
    let dispatchMap ← DispatchMap.ofData r
    return ⟨classFile.text, dispatchMap.text⟩

/-- The name of the class file. -/
def className : Text := "flutter_rpc_handlers.generated.ts"

/-- The name of the file of the dispatch map. -/
def mapName : Text := "create_rpc_handler_map.generated.ts"

/-- The path of the class file. -/
def classPath (out : Path) : Path := out.join className

/-- The path of the file of the dispatch map. -/
def mapPath (out : Path) : Path := out.join mapName

/-- The bytes of a text in a file. Every text has them, since no half of a
surrogate pair is in one. -/
def content (t : Text) : ByteArray := (String.ofList t).toUTF8

/-- Writes both files into a directory, which is made if it is not
there. When a step fails the earlier ones have been done. -/
def write (a : Artifact) (out : Path) (fs : FileSystem) : Except FileFault Unit × FileSystem :=
  match fs.makeDirectories out with
  | (.error e, fs) => (.error e, fs)
  | (.ok (), fs) =>
    match fs.write (classPath out) (content a.classText) with
    | .error e => (.error e, fs)
    | .ok fs =>
      match fs.write (mapPath out) (content a.mapText) with
      | .error e => (.error e, fs)
      | .ok fs => (.ok (), fs)

/-- What is printed once both files are written. -/
def report (out : Path) : Text :=
  "Generated FlutterRpcHandlers class at: " ++ (classPath out).text ++ "\n"
    ++ "Generated createRpcHandlerMap function at: " ++ (mapPath out).text ++ "\n"

end Artifact

/-- Why a run fails. -/
inductive RunFault
  | load (e : LoadFault)
  | rules (e : HandlerFault)
  | render (e : RenderFault)
  | files (e : FileFault)
deriving DecidableEq

/-- The wording of a fault that has one. -/
def RunFault.message? : RunFault → Option Text
  | load e => e.message?
  | rules e => some e.message
  | render e => e.message?
  | files e => e.message?

namespace Generation

/-- What a run leaves behind: the exit status or the fault that escaped
it, what it printed, and the files. -/
structure Outcome where
  status : Except RunFault Nat
  output : Text
  messages : Text
  files : FileSystem

/-- The context of the handler files at some paths. -/
def contextOf (fs : FileSystem) (inputs : List Path) : Except RunFault Context :=
  match HandlerFile.loadAll fs inputs with
  | .error e => .error (.load e)
  | .ok ds => (Context.ofDescriptors ds).mapError .rules

/-- Lays both files out and writes them. -/
def generate (r : DataRecord) (out : Path) (fs : FileSystem) : Except RunFault Unit × FileSystem :=
  match Artifact.ofData r with
  | .error e => (.error (.render e), fs)
  | .ok a =>
    let (done, fs) := a.write out fs
    (done.mapError .files, fs)

/-- The end of a run at a fault, after some messages. -/
def failed (e : RunFault) (messages : Text) (fs : FileSystem) : Outcome :=
  match e.message? with
  | some m => ⟨.ok 1, [], messages ++ "Error generating RPC handlers: " ++ m ++ "\n", fs⟩
  | none => ⟨.error e, [], messages, fs⟩

/-- A run on the handler files at some paths, with a directory for the
generated files. -/
def run (fs : FileSystem) (inputs : List Path) (out : Path) : Outcome :=
  match contextOf fs inputs with
  | .error e => failed e [] fs
  | .ok c =>
    match generate c.data out fs with
    | (.error e, fs) => failed e c.warnings fs
    | (.ok (), fs) => ⟨.ok 0, Artifact.report out, c.warnings, fs⟩

end Generation

end HandlerGen
