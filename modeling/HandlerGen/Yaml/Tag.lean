import HandlerGen.Yaml.Scalar.Timestamp
/-!
# Tags

The tag of a node says how its value is made. A node may spell its tag
out; a plain scalar without one has the tag of the first form that its
whole text has, and is a text if it has none (`Tag.ofPlain`). The forms
look at a text up to its end or up to the line feed that ends it.
-/

namespace HandlerGen

namespace Yaml

/-- How the value of a node is made. -/
inductive Tag
  | null
  | bool
  | int
  | float
  | timestamp
  | binary
  | text
  | sequence
  | mapping
  | set
  /-- A sequence of mappings with one entry each. -/
  | pairs
  /-- The key under which another mapping's entries are taken over. -/
  | merge
  /-- The key under which the scalar stands that a mapping may be read
  as. -/
  | value
  /-- A tag without values. -/
  | unknown
deriving DecidableEq, Repr

namespace Tag

/-- The start of the tags of the language. -/
def languageUri : Text := "tag:yaml.org,2002:"

/-- The tags of the language by their names. -/
def ofName (name : Text) : Tag :=
  let table : List (Text × Tag) :=
    [("null", null), ("bool", bool), ("int", int), ("float", float), ("timestamp", timestamp),
      ("binary", binary), ("str", text), ("seq", sequence), ("map", mapping), ("set", set),
      ("omap", pairs), ("pairs", pairs), ("merge", merge), ("value", value)]
  (table.lookup name).getD unknown

/-- The tag that is written out. -/
def ofUri (uri : Text) : Tag :=
  if languageUri.isPrefixOf uri then ofName (uri.drop languageUri.length) else unknown

/-- Whether the value of such a node has parts. -/
def isCollection : Tag → Bool
  | sequence | mapping | set | pairs => true
  | _ => false

/-! ## The forms of plain scalars -/

/-- Whether a text is one of some words, each in small letters, with a
capital, or in capitals. -/
def isWordOf (words : List Text) (t : Text) : Bool :=
  words.any fun w =>
    t == w || t == w.map Char.toUpper || t == (w.take 1).map Char.toUpper ++ w.drop 1

/-- Digits and underscores, the first a digit that passes a test. -/
def isDigits (first : Char → Bool) : Text → Bool
  | [] => false
  | c :: t => c.isDigit && first c && t.all fun d => d.isDigit || d == '_'

/-- A text less the sign it may start with. -/
def unsigned : Text → Text
  | '+' :: t => t
  | '-' :: t => t
  | t => t

/-- Whether a text is a place of a number in base sixty behind the
first. -/
def isSixtieth : Text → Bool
  | [c] => c.isDigit
  | [c, d] => ('0' ≤ c && c ≤ '5') && d.isDigit
  | _ => false

/-- The form of integers: binary, octal, decimal, hexadecimal, or in
base sixty. -/
def isInt (t : Text) : Bool :=
  let u := unsigned t
  match u with
  | '0' :: 'b' :: d :: ds => (d :: ds).all fun c => c == '0' || c == '1' || c == '_'
  | '0' :: 'x' :: d :: ds =>
    (d :: ds).all fun c =>
      c.isDigit || ('a' ≤ c && c ≤ 'f') || ('A' ≤ c && c ≤ 'F') || c == '_'
  | '0' :: ds => ds.all fun c => ('0' ≤ c && c ≤ '7') || c == '_'
  | _ =>
    match u.splitOn ':' with
    | first :: places => isDigits (· != '0') first && places.all isSixtieth
    | [] => false

/-- Digits and underscores with an exponent, which has a sign, or
without one. -/
def isFraction (t : Text) : Bool :=
  match t.dropWhile (fun c => c.isDigit || c == '_') with
  | [] => true
  | e :: s :: d :: ds =>
    (e == 'e' || e == 'E') && (s == '+' || s == '-') && (d :: ds).all Char.isDigit
  | _ => false

/-- The form of numbers with a point: with digits before it, without
them, in base sixty, or one of the words for what is no finite
number. -/
def isFloat (t : Text) : Bool :=
  let u := unsigned t
  match u.splitOn '.' with
  | [[], word] =>
    (word == "inf".toList || word == "Inf".toList || word == "INF".toList)
      || (u == t && (word == "nan".toList || word == "NaN".toList || word == "NAN".toList))
      || (u == t && word.head?.any Char.isDigit && isFraction word)
  | [whole, fraction] =>
    match whole.splitOn ':' with
    | [first] => isDigits (fun _ => true) first && isFraction fraction
    | first :: places =>
      isDigits (fun _ => true) first && places.all isSixtieth
        && fraction.all fun c => c.isDigit || c == '_'
    | [] => false
  | _ => false

/-- The tag of a plain scalar. -/
def ofPlain (t : Text) : Tag :=
  let u := t.dropFinalBreak
  if t = ['\n'] then text
  else if isWordOf ["yes", "no", "true", "false", "on", "off"] u then bool
  else if isFloat u then float
  else if isInt u then int
  else if u = "<<".toList then merge
  else if u = [] ∨ u = ['~'] ∨ isWordOf ["null"] u then null
  else if Timestamp.isPlain u then timestamp
  else if u = ['='] then value
  else if u = ['!'] ∨ u = ['&'] ∨ u = ['*'] then unknown
  else text

end Tag

end Yaml

end HandlerGen
