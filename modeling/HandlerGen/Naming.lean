import HandlerGen.Text.UpperCase
/-!
# Names in the generated code

A handler's snake-case name becomes the name of its method and of the
type of its parameters: the words between underscores are put together,
each with its first character in upper case, and the result gets
`handle` before it or `Params` behind it. So `hot_reload` gives
`handleHotReload` and `HotReloadParams`.
-/

namespace HandlerGen

namespace Naming

/-- A word with its first character in upper case. -/
def capitalised : Text → Text
  | [] => []
  | c :: t => upperCase c ++ t

/-- The words of a name, capitalised and put together. -/
def pascalCase (name : Text) : Text := (name.splitOn '_').flatMap capitalised

/-- The name of a handler's method. -/
def methodName (name : Text) : Text := "handle" ++ pascalCase name

/-- The name of the type of a handler's parameters. -/
def paramsTypeName (name : Text) : Text := pascalCase name ++ "Params"

end Naming

end HandlerGen
