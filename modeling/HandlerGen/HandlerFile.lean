import HandlerGen.Descriptor
import HandlerGen.Files.FileSystem
import HandlerGen.Yaml.Load
/-!
# Handler files

A handler file is a YAML document in UTF-8, whose outermost mapping has
a list of records under the key `handlers`. Each record gives one
descriptor, with the name of the file as its source, and the descriptors
keep the order of the records (`HandlerFile.load`). Several files give
the descriptors of one after those of the other (`loadAll`).

A file is refused for its first fault (`LoadFault`). All faults but three
have a message. Those without are a path that holds the null character, a
scalar that breaks the promise of its tag, and a parameter name that is
too long a number to be shown.

No text holds what an escape for one half of a surrogate pair stands for.
A file is refused at such an escape (`Yaml.Fault.surrogate`), and of a run
on it nothing more is said.
-/

namespace HandlerGen

/-- Why a handler file is refused. -/
inductive LoadFault
  | notFound (path : Path)
  | unreadable (path : Path) (fault : FileFault)
  | notUtf8 (path : Path)
  | malformed (path : Path)
  | rootNotMapping (source : Text)
  | handlersNotList (source : Text)
  | record (source : Text) (index : Nat) (fault : RecordFault)
  /-- A scalar that breaks the promise of its tag. -/
  | scalar (fault : Yaml.Fault)
deriving DecidableEq

/-- The wording of a fault that has one. -/
def LoadFault.message? : LoadFault → Option Text
  | notFound path => some ("Handler file not found: " ++ path.text)
  | unreadable path fault =>
    fault.message?.map fun m => "Cannot read handler file " ++ path.text ++ ": " ++ m
  | notUtf8 path => some (path.text ++ " is not valid UTF-8")
  | malformed path => some ("Invalid YAML in " ++ path.text)
  | rootNotMapping source => some (source ++ ": YAML root must be a mapping")
  | handlersNotList source => some (source ++ ": 'handlers' must be a list")
  | record source index fault => fault.message? source index
  | scalar _ => none

namespace HandlerFile

/-- How deep the parts of a handler file are looked at: the list of
records, a record, the parameters of one, and their rules. -/
def depth : Nat := 4

/-- The descriptors of records, the first of which has a given index. -/
def readRecords (source : Text) : Nat → List Value → Except LoadFault (List Descriptor)
  | _, [] => .ok []
  | index, v :: vs =>
    match Descriptor.ofValue source v with
    | .error e => .error (.record source index e)
    | .ok d =>
      match readRecords source (index + 1) vs with
      | .error e => .error e
      | .ok ds => .ok (d :: ds)

/-- The descriptors of a document's value. -/
def readRoot (source : Text) : Value → Except LoadFault (List Descriptor)
  | .dict es =>
    match es.lookup (.text "handlers") with
    | some (.list vs) => readRecords source 0 vs
    | _ => .error (.handlersNotList source)
  | _ => .error (.rootNotMapping source)

/-- The descriptors of the source of a handler file. -/
def readSource (path : Path) (s : Yaml.Source) : Except LoadFault (List Descriptor) :=
  match Yaml.load depth s with
  | .error .encoding => .error (.notUtf8 path)
  | .error .malformed => .error (.malformed path)
  | .error e => .error (.scalar e)
  | .ok v => readRoot path.name v

/-- The descriptors of the text of a handler file. -/
def readText (path : Path) (t : Text) : Except LoadFault (List Descriptor) :=
  readSource path (.ofText t.unifyBreaks)

/-- The descriptors of the content of a handler file. -/
def readContent (path : Path) (content : ByteArray) : Except LoadFault (List Descriptor) :=
  match String.fromUTF8? content with
  | some s => readText path s.toList
  | none => readSource path (.ofBytes content.toList)

/-- The descriptors of a handler file. -/
def load (fs : FileSystem) (path : Path) : Except LoadFault (List Descriptor) :=
  match fs.read path with
  | .error e => if e.cause = .notFound then .error (.notFound path) else .error (.unreadable path e)
  | .ok content => readContent path content

/-- The descriptors of several handler files, one after the other. -/
def loadAll (fs : FileSystem) : List Path → Except LoadFault (List Descriptor)
  | [] => .ok []
  | p :: ps =>
    match load fs p with
    | .error e => .error e
    | .ok ds =>
      match loadAll fs ps with
      | .error e => .error e
      | .ok es => .ok (ds ++ es)

end HandlerFile

end HandlerGen
