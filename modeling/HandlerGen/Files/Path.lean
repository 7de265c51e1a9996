import HandlerGen.Text
/-!
# Paths

A path is the list of names on the way from the working directory, or
from the root of the file system. The text of a path may have empty
names and single points in it, which do not count.

Not every path can be followed. Each name on it and the whole text of it
have a limited count of bytes (`Path.isLongName`, `Path.isLong`), and the
null character is in no name (`Path.holdsNull`).
-/

namespace HandlerGen

/-- A way through directories. -/
structure Path where
  /-- Whether the way starts at the root. -/
  rooted : Bool := false
  names : List Text := []
deriving DecidableEq, Repr

namespace Path

/-- The path that a text spells. -/
def ofText (t : Text) : Path where
  rooted := t.head? == some '/'
  names := (t.splitOn '/').filter fun name => !name.isEmpty && name != ['.']

/-- The text of a path. The path without names is a point. -/
def text (p : Path) : Text :=
  let names := List.intercalate ['/'] p.names
  if p.rooted then '/' :: names else if p.names.isEmpty then ['.'] else names

/-- The last name of a path. -/
def name (p : Path) : Text := p.names.getLast?.getD []

/-- A name inside the directory at a path. -/
def join (p : Path) (name : Text) : Path := { p with names := p.names ++ [name] }

/-- How many bytes a text has. -/
def byteCount (t : Text) : Nat := t.foldr (fun c n => c.utf8Size + n) 0

/-- The most bytes that a name has. -/
def nameLimit : Nat := 255

/-- The most bytes that the text of a path has. -/
def textLimit : Nat := 4095

/-- Whether a name has more bytes than names have. -/
def isLongName (name : Text) : Bool := nameLimit < byteCount name

/-- Whether the text of a path has more bytes than such texts have. -/
def isLong (p : Path) : Bool := textLimit < byteCount p.text

/-- Whether a path holds the null character, with which it is not even
followed. -/
def holdsNull (p : Path) : Bool := p.names.any (·.contains '\x00')

/-- The place that a name leads to from a directory. Two points lead to
the directory around it. -/
def enter (p : Path) (name : Text) : Path :=
  if name = ['.', '.'] then { p with names := p.names.dropLast } else p.join name

end Path

end HandlerGen
