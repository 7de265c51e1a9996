import HandlerGen.Text.Blank
/-!
# Doc comments

The lines of a description as they stand inside a block comment. Line
ends of any spelling cut the description into lines; white space at the
end of a line and empty lines at the end of the description are dropped,
and inner and leading empty lines are kept. The two characters that
would end the comment get a backslash between them.
-/

namespace HandlerGen

namespace DocComment

/-- Puts a backslash into every pair of characters that would close a
block comment. -/
def escape : Text → Text
  | [] => []
  | '*' :: '/' :: t => '*' :: '\\' :: '/' :: escape t
  | c :: t => c :: escape t

/-- A list of lines less the empty lines at its end. -/
def dropLastEmpty : List Text → List Text
  | [] => []
  | l :: ls =>
    match dropLastEmpty ls with
    | [] => if l.isEmpty then [] else [l]
    | m :: ms => l :: m :: ms

/-- The lines of a description inside a block comment. -/
def lines (description : Text) : List Text :=
  dropLastEmpty ((Text.lines (escape (Text.unifyBreaks description))).map Text.trimEnd)

end DocComment

end HandlerGen
