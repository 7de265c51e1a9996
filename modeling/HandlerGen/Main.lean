import HandlerGen.Generation
/-!
# The command line

Reads both handler files of the working directory and generates into the
directory `generated`. What is there at the paths concerned is taken
down before the run, and what the run has changed is written after it;
the run itself is `Generation.run`.
-/

namespace HandlerGen

namespace CommandLine

/-- The handler files of the working directory. -/
def inputs : List Path :=
  [.ofText "spec/ext.dart.handler.yaml", .ofText "spec/ext.flutter.handler.yaml"]

/-- The directory of the generated files. -/
def out : Path := .ofText "generated"

/-- The ways to a place, from the first name on. -/
def waysTo (p : Path) : List Path :=
  (List.range p.names.length).map fun n => { p with names := p.names.take (n + 1) }

/-- What there is at a path of the system. What is there and cannot be
read as a file counts as a directory. -/
def probe (p : Path) : IO (Option FileEntry) := do
  try
    return some (.file (← IO.FS.readBinFile (String.ofList p.text)))
  catch
    | .noFileOrDirectory .. => return none
    | _ => return some .directory

/-- The file system at some paths and on the ways to them. -/
def snapshot (ps : List Path) : IO FileSystem :=
  (ps.flatMap waysTo).foldlM (fun fs p => do
    match ← probe p with
    | some e => return fs.set p e
    | none => return fs) {}

/-- Writes what a run has changed: the directories it made, and the
files whose content is another than before. -/
def commit (before after : FileSystem) : IO Unit := do
  for (p, e) in after.entries do
    let name := String.ofList p.text
    match before.entries.lookup p, e with
    | none, .directory => IO.FS.createDirAll name
    | some (.file old), .file content =>
      if old.toList != content.toList then IO.FS.writeBinFile name content
    | none, .file content => IO.FS.writeBinFile name content
    | _, _ => continue

end CommandLine

end HandlerGen

open HandlerGen in
/-- Generates both files and returns the exit status. -/
def main : IO UInt32 := do
  let out := CommandLine.out
  let before ← CommandLine.snapshot
    (CommandLine.inputs ++ [Artifact.classPath out, Artifact.mapPath out])
  let r := Generation.run before CommandLine.inputs out
  CommandLine.commit before r.files
  (← IO.getStdout).putStr (String.ofList r.output)
  (← IO.getStderr).putStr (String.ofList r.messages)
  match r.status with
  | .ok code => return code.toUInt32
  | .error _ => throw (IO.userError "a handler file holds a scalar that has no value or is not shown")
