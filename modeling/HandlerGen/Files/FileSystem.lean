import HandlerGen.Entries
import HandlerGen.Files.Path
import HandlerGen.Text.Quoted
/-!
# File systems

A file system says of finitely many places that there is a file with
some content, or a directory. The working directory and the root are
always there. An operation follows a path name by name, and each
directory on the way must be there (`FileSystem.locate`); it fails for
one of six reasons, which name the path that it was given. A path that
is too long or holds the null character is not followed at all, and the
fault of the null character alone has no wording. There is room for
everything that is written, and nothing is forbidden.

Reading and writing leave every other place as it is: a write sets one
place and a removal clears one.
-/

namespace HandlerGen

/-- What there is at a place. -/
inductive FileEntry
  | directory
  | file (content : ByteArray)

/-- Why an operation on files fails. -/
inductive FileCause
  | notFound
  | occupied
  | notDirectory
  | isDirectory
  | nameTooLong
  | nullCharacter
deriving DecidableEq, Repr

/-- The failure of an operation on a path. -/
structure FileFault where
  cause : FileCause
  path : Path
deriving DecidableEq, Repr

/-- The number of a cause and its wording, if it has one. -/
def FileCause.text? : FileCause → Option Text
  | notFound => some "[Errno 2] No such file or directory"
  | occupied => some "[Errno 17] File exists"
  | notDirectory => some "[Errno 20] Not a directory"
  | isDirectory => some "[Errno 21] Is a directory"
  | nameTooLong => some "[Errno 36] File name too long"
  | nullCharacter => none

/-- The wording of a failure that has one. -/
def FileFault.message? (e : FileFault) : Option Text :=
  e.cause.text?.map fun t => t ++ ": " ++ e.path.text.quoted

/-- The files and directories that there are. -/
structure FileSystem where
  entries : List (Path × FileEntry) := []

namespace FileSystem

/-- What there is at a place. -/
def get? (fs : FileSystem) (place : Path) : Option FileEntry :=
  if place.names.isEmpty then some .directory else fs.entries.lookup place

/-- The file system with an entry at a place. -/
def set (fs : FileSystem) (place : Path) (e : FileEntry) : FileSystem :=
  ⟨Entries.put place e fs.entries⟩

/-- **A write sets one place** and leaves every other as it is. The
working directory and the root are not to be written. -/
theorem get?_set {fs : FileSystem} {place : Path} (h : place.names ≠ []) (e : FileEntry)
    (p : Path) : (fs.set place e).get? p = if p = place then some e else fs.get? p := by
  unfold get? set
  by_cases hp : p.names.isEmpty = true
  · have hne : p ≠ place := by
      rintro rfl
      exact h (List.isEmpty_iff.1 hp)
    rw [if_pos hp, if_neg hne, if_pos hp]
  · rw [if_neg hp, if_neg hp, Entries.lookup_put]

/-- The place that names lead to from a place. Each place on the way
must be a directory; the last need not be there. -/
def follow (fs : FileSystem) (place : Path) : List Text → Except FileCause Path
  | [] => .ok place
  | name :: names =>
    match fs.get? place with
    | none => .error .notFound
    | some (.file _) => .error .notDirectory
    | some .directory =>
      if Path.isLongName name then .error .nameTooLong
      else fs.follow (place.enter name) names

/-- The place that a path leads to. -/
def locate (fs : FileSystem) (p : Path) : Except FileFault Path :=
  if p.holdsNull then .error ⟨.nullCharacter, p⟩
  else if p.isLong then .error ⟨.nameTooLong, p⟩
  else (fs.follow { p with names := [] } p.names).mapError (⟨·, p⟩)

/-- What there is at the end of a path. -/
def look (fs : FileSystem) (p : Path) : Option FileEntry :=
  match fs.locate p with
  | .error _ => none
  | .ok place => fs.get? place

/-- The content of a file. -/
def read (fs : FileSystem) (p : Path) : Except FileFault ByteArray := do
  let place ← fs.locate p
  match fs.get? place with
  | none => .error ⟨.notFound, p⟩
  | some .directory => .error ⟨.isDirectory, p⟩
  | some (.file content) => return content

/-- Writes a file, whose directory must be there. What it held before is
lost. -/
def write (fs : FileSystem) (p : Path) (content : ByteArray) : Except FileFault FileSystem := do
  let place ← fs.locate p
  match fs.get? place with
  | some .directory => .error ⟨.isDirectory, p⟩
  | _ => return fs.set place (.file content)

/-- Makes a directory inside one that must be there. -/
def makeDirectory (fs : FileSystem) (p : Path) : Except FileFault FileSystem := do
  let place ← fs.locate p
  match fs.get? place with
  | some _ => .error ⟨.occupied, p⟩
  | none => return fs.set place .directory

/-- Makes a directory inside one that must be there, unless it is there
itself. -/
def ensureDirectory (fs : FileSystem) (p : Path) : Except FileFault FileSystem :=
  match fs.makeDirectory p, fs.look p with
  | .ok fs, _ => .ok fs
  | .error _, some .directory => .ok fs
  | .error e, _ => .error e

/-- Makes the directories on a way, of which the last name comes first,
unless they are there. Where a directory is not found on the way, the
way to it is made first, and stays when a later step fails. -/
def makeWay (fs : FileSystem) (rooted : Bool) : List Text → Except FileFault Unit × FileSystem
  | [] => (.ok (), fs)
  | name :: names =>
    let p : Path := ⟨rooted, (name :: names).reverse⟩
    match fs.ensureDirectory p with
    | .ok fs => (.ok (), fs)
    | .error e =>
      if e.cause = .notFound then
        match fs.makeWay rooted names with
        | (.error e, fs) => (.error e, fs)
        | (.ok (), fs) =>
          match fs.ensureDirectory p with
          | .ok fs => (.ok (), fs)
          | .error e => (.error e, fs)
      else (.error e, fs)

/-- Makes a directory and the directories on the way to it, unless they
are there. -/
def makeDirectories (fs : FileSystem) (p : Path) : Except FileFault Unit × FileSystem :=
  fs.makeWay p.rooted p.names.reverse

/-- Removes a file. -/
def remove (fs : FileSystem) (p : Path) : Except FileFault FileSystem := do
  let place ← fs.locate p
  match fs.get? place with
  | none => .error ⟨.notFound, p⟩
  | some .directory => .error ⟨.isDirectory, p⟩
  | some (.file _) => return ⟨fs.entries.filter (·.1 != place)⟩

/-- The names in a directory, sorted by their characters. -/
def namesIn (fs : FileSystem) (place : Path) : List Text :=
  let inside := fs.entries.filterMap fun (p, _) =>
    if p.rooted == place.rooted && p.names.dropLast == place.names then p.names.getLast? else none
  inside.mergeSort Text.precedes

end FileSystem

end HandlerGen
