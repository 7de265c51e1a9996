import HandlerGen.CallObject
import HandlerGen.Proofs.NameCharacters
import HandlerGen.Proofs.Reader
/-!
# Object literals

What generated methods pass to the remote call, as it is spelt
(`Expression.text`) and as it is read (`Expression.read`): the port
number, a parameter of the method, or an object of such expressions.
Nothing is known of rules here. A word is taken as far as
it goes on, two properties have a comma between them, and none stands
behind the last.

So what a word is depends on what follows it: `TakesWord` is `Takes` in
front of texts that do not go on with a word. **An object is read as its
properties, in order** (`Expression.takes_braced`).
-/

namespace HandlerGen

/-- An expression of a generated call. -/
inductive Expression
  | value (v : PropertyValue)
  | object (properties : List (Text × Expression))

namespace Expression

/-- Takes an identifier as far as it goes on. -/
def word : Reader Text := fun t =>
  let w := t.takeWhile Text.isIdentifierPart
  if Text.isIdentifier w then some (w, t.drop w.length) else none

/-- Takes the rest of the port number or of a parameter behind its first
word. -/
def valueBehind : Text → Reader PropertyValue
  | ['p', 'o', 'r', 't'] => return .port
  | ['p', 'a', 'r', 'a', 'm', 's'] => do
    Reader.expect ['?', '.']
    let name ← word
    return .param name
  | _ => failure

/-- Takes the port number or a parameter. -/
def valueReader : Reader PropertyValue := do
  let w ← word
  valueBehind w

/-- Takes a property, whose value another reader takes. -/
def propertyReader (r : Reader Expression) : Reader (Text × Expression) := do
  let key ← word
  Reader.expect ": "
  let v ← r
  return (key, v)

/-- Takes properties, of which there are at least one and at most a given
number, with the brace behind them. -/
def propertiesReader (r : Reader Expression) : Nat → Reader (List (Text × Expression))
  | 0 => failure
  | n + 1 => do
    let first ← propertyReader r
    if ← Reader.either ", " " \x7d" then
      let others ← propertiesReader r n
      return first :: others
    else return [first]

/-- Takes an object behind its first brace, with properties that a reader
takes. -/
def objectReader (r : Reader Expression) : Reader Expression := do
  if ← Reader.either "\x7d" " " then return object []
  else
    -- there are no more properties than characters
    let properties ← fun t => propertiesReader r t.length t
    return object properties

/-- Takes an expression with no more objects within objects than a given
number. -/
def reader : Nat → Reader Expression
  | 0 => do return value (← valueReader)
  | depth + 1 => do
    if ← Reader.optional "\x7b" then objectReader (reader depth)
    else return value (← valueReader)

/-- Reads a text as an expression. -/
def read (t : Text) : Option Expression := (reader t.length).whole t

end Expression

/-! ## Words -/

/-- Whether a text goes on with a word. -/
def Text.goesOn (t : Text) : Bool := t.head?.any Text.isIdentifierPart

/-- A reader takes a text for a value in front of any text that does not
go on with a word. -/
def TakesWord {α : Type} (r : Reader α) (s : Text) (a : α) : Prop :=
  ∀ rest : Text, rest.goesOn = false → r (s ++ rest) = some (a, rest)

theorem Text.goesOn_append {s : Text} {c : Char} (hs : s.head? = some c)
    (hc : Text.isIdentifierPart c = false) (rest : Text) : Text.goesOn (s ++ rest) = false := by
  obtain ⟨u, rfl⟩ := List.head?_eq_some_iff.1 hs
  exact hc

/-- An identifier is the word that a text starts with, if the text does not
go on with it. -/
theorem Text.takeWhile_append_of_isIdentifier {n rest : Text} (hn : n.isIdentifier = true)
    (hrest : rest.goesOn = false) : (n ++ rest).takeWhile Text.isIdentifierPart = n := by
  have hall : ∀ c ∈ n, Text.isIdentifierPart c = true :=
    fun c hc => Text.isIdentifierPart_of_isIdentifier hn hc
  have hstop : rest.takeWhile Text.isIdentifierPart = [] := by
    cases rest with
    | nil => rfl
    | cons c rest => exact List.takeWhile_cons_of_neg (by simpa [Text.goesOn] using hrest)
  rw [List.takeWhile_append_of_pos hall, hstop, List.append_nil]

namespace TakesWord

variable {α β : Type} {r : Reader α} {f : α → Reader β} {s s' : Text} {a : α} {b : β} {c : Char}

theorem of_takes (h : Takes r s a) : TakesWord r s a := fun rest _ => h rest

/-- A word is taken in front of what does not go on with it. -/
theorem bind_apply (h : TakesWord r s a) (hs : s'.head? = some c)
    (hc : Text.isIdentifierPart c = false) (rest : Text) :
    (r >>= f) (s ++ s' ++ rest) = f a (s' ++ rest) := by
  rw [List.append_assoc]
  change (r (s ++ (s' ++ rest))).bind _ = _
  rw [h _ (Text.goesOn_append hs hc rest), Option.bind_some]

theorem bind (h : TakesWord r s a) (hs : s'.head? = some c) (hc : Text.isIdentifierPart c = false)
    (h' : TakesWord (f a) s' b) : TakesWord (r >>= f) (s ++ s') b :=
  fun rest hrest => (h.bind_apply hs hc rest).trans (h' rest hrest)

theorem bind_takes (h : TakesWord r s a) (hs : s'.head? = some c)
    (hc : Text.isIdentifierPart c = false) (h' : Takes (f a) s' b) :
    Takes (r >>= f) (s ++ s') b :=
  fun rest => (h.bind_apply hs hc rest).trans (h' rest)

/-- Behind a word nothing more may be taken. -/
theorem bind_nil (h : TakesWord r s a) (h' : Takes (f a) [] b) : TakesWord (r >>= f) s b := by
  intro rest hrest
  change (r (s ++ rest)).bind _ = _
  rw [h rest hrest, Option.bind_some]
  exact h' rest

end TakesWord

theorem Takes.bind_word {α β : Type} {r : Reader α} {f : α → Reader β} {s s' : Text} {a : α}
    {b : β} (h : Takes r s a) (h' : TakesWord (f a) s' b) : TakesWord (r >>= f) (s ++ s') b := by
  intro rest hrest
  have hstep : (r >>= f) (s ++ (s' ++ rest)) = f a (s' ++ rest) := by
    change (r (s ++ (s' ++ rest))).bind _ = _
    rw [h, Option.bind_some]
  rw [List.append_assoc, hstep, h' rest hrest]

namespace Expression

/-- **An identifier is taken whole.** -/
theorem takes_word {t : Text} (h : t.isIdentifier = true) : TakesWord word t t := by
  intro rest hrest
  rw [word]
  simp only [Text.takeWhile_append_of_isIdentifier h hrest, h, if_true, List.drop_left]

/-! ## Values -/

/-- How the port number and parameters are spelt. -/
def valueText : PropertyValue → Text
  | .param name => ['p', 'a', 'r', 'a', 'm', 's'] ++ (['?', '.'] ++ name)
  | .port => ['p', 'o', 'r', 't']

theorem takes_valueReader {v : PropertyValue}
    (h : ∀ name, v = .param name → name.isIdentifier = true) :
    TakesWord valueReader (valueText v) v := by
  cases v with
  | port =>
    have hbehind : Takes (valueBehind ['p', 'o', 'r', 't']) [] .port := fun _ => rfl
    exact (takes_word (by decide)).bind_nil hbehind
  | param name =>
    have hname : TakesWord (word >>= fun n => pure (PropertyValue.param n)) name (.param name) :=
      (takes_word (h name rfl)).bind_nil Takes.pure
    exact (takes_word (by decide)).bind (c := '?') rfl (by decide)
      ((Takes.expect ['?', '.']).bind_word hname)

/-! ## Objects -/

variable {r : Reader Expression}

/-- A property. -/
def propertyText (key value : Text) : Text := key ++ (": " ++ value)

mutual

/-- How an expression is spelt. -/
def text : Expression → Text
  | value v => valueText v
  | object properties =>
    if properties.isEmpty then "\x7b\x7d" else CallObject.braced (propertyTexts properties)

/-- How properties are spelt. -/
def propertyTexts : List (Text × Expression) → List Text
  | [] => []
  | (key, e) :: properties => propertyText key e.text :: propertyTexts properties

end

theorem propertyTexts_eq_map (properties : List (Text × Expression)) :
    propertyTexts properties = properties.map fun p => propertyText p.1 p.2.text := by
  induction properties with
  | nil => rfl
  | cons p properties ih => exact congrArg (propertyText p.1 p.2.text :: ·) ih

/-- An object with properties is these in braces. -/
theorem text_object {properties : List (Text × Expression)} (h : properties ≠ []) :
    (object properties).text
      = CallObject.braced (properties.map fun p => propertyText p.1 p.2.text) := by
  have hempty : properties.isEmpty = false := by simpa using h
  rw [text, hempty, if_neg Bool.false_ne_true, propertyTexts_eq_map]

theorem takes_propertyReader {key text : Text} {v : Expression} (hkey : key.isIdentifier = true)
    (hvalue : TakesWord r text v) :
    TakesWord (propertyReader r) (propertyText key text) (key, v) :=
  (takes_word hkey).bind (Text.head?_ofList_append (s := [':', ' ']) rfl text) (by decide)
    ((Takes.expect _).bind_word (hvalue.bind_nil Takes.pure))

variable {γ : Type} {gs : List γ} {key text : γ → Text} {v : γ → Expression}

/-- **Properties are taken one by one**, with the brace behind the last. -/
theorem takes_propertiesReader {n : Nat} (hkeys : ∀ g ∈ gs, (key g).isIdentifier = true)
    (hvalues : ∀ g ∈ gs, TakesWord r (text g) (v g)) (hne : gs ≠ []) (hn : gs.length ≤ n) :
    Takes (propertiesReader r n)
      (List.intercalate ", " (gs.map fun g => propertyText (key g) (text g)) ++ " \x7d")
      (gs.map fun g => (key g, v g)) := by
  have hparts : Text.parts ", " " \x7d" = true := Text.parts_ofList (by decide)
  induction gs generalizing n with
  | nil => exact absurd rfl hne
  | cons g gs ih =>
    obtain ⟨n, rfl⟩ : ∃ k, n = k + 1 := ⟨n - 1, by rw [List.length_cons] at hn; omega⟩
    have hfirst : TakesWord (propertyReader r) (propertyText (key g) (text g)) (key g, v g) :=
      takes_propertyReader (hkeys g List.mem_cons_self) (hvalues g List.mem_cons_self)
    cases gs with
    | nil =>
      have hend : Takes (Reader.either ", " " \x7d" >>= fun more => if more = true then do
            let others ← propertiesReader r n
            return (key g, v g) :: others
          else return [(key g, v g)]) " \x7d" [(key g, v g)] :=
        Takes.cast (List.append_nil _) ((Takes.either hparts false).bind Takes.pure)
      rw [List.map_singleton, List.intercalate_singleton]
      exact hfirst.bind_takes (Text.head?_ofList rfl) (by decide) hend
    | cons g' gs =>
      have hothers := ih (fun g hg => hkeys g (List.mem_cons_of_mem _ hg))
        (fun g hg => hvalues g (List.mem_cons_of_mem _ hg)) (List.cons_ne_nil g' gs)
        (Nat.le_of_succ_le_succ hn)
      have hrest : Takes (propertiesReader r n >>= fun others => pure ((key g, v g) :: others))
          (List.intercalate ", " ((g' :: gs).map fun g => propertyText (key g) (text g)) ++ " \x7d")
          ((key g, v g) :: (g' :: gs).map fun g => (key g, v g)) :=
        Takes.cast (List.append_nil _) (hothers.bind Takes.pure)
      rw [List.map_cons, List.map_cons, List.intercalate_cons_cons, List.append_assoc,
        List.append_assoc]
      exact hfirst.bind_takes (Text.head?_ofList_append rfl _) (by decide)
        ((Takes.either hparts true).bind hrest)

/-- A text that is put together from others is at least as long as there
are of them. -/
theorem length_le_length_intercalate {s : Text} {ts : List Text} (h : ∀ t ∈ ts, t ≠ []) :
    ts.length ≤ (s.intercalate ts).length := by
  induction ts with
  | nil => exact Nat.zero_le _
  | cons t ts ih =>
    have ht : 0 < t.length := List.length_pos_iff.2 (h t List.mem_cons_self)
    have hrest := ih fun t ht => h t (List.mem_cons_of_mem _ ht)
    cases ts with
    | nil => rwa [List.intercalate_singleton]
    | cons u us =>
      rw [List.intercalate_cons_cons, List.length_append, List.length_append, List.length_cons]
      omega

/-- **An object is taken from its properties in braces.** -/
theorem takes_objectReader (hkeys : ∀ g ∈ gs, (key g).isIdentifier = true)
    (hvalues : ∀ g ∈ gs, TakesWord r (text g) (v g)) (hne : gs ≠ []) :
    Takes (objectReader r)
      (" " ++ (List.intercalate ", " (gs.map fun g => propertyText (key g) (text g)) ++ " \x7d"))
      (object (gs.map fun g => (key g, v g))) := by
  have hparts : Text.parts "\x7d" " " = true := Text.parts_ofList (by decide)
  have hproperties : Takes (fun t => propertiesReader r t.length t)
      (List.intercalate ", " (gs.map fun g => propertyText (key g) (text g)) ++ " \x7d")
      (gs.map fun g => (key g, v g)) := by
    intro rest
    refine takes_propertiesReader hkeys hvalues hne ?_ rest
    have hlength : (gs.map fun g => propertyText (key g) (text g)).length
        ≤ (List.intercalate ", " (gs.map fun g => propertyText (key g) (text g))).length := by
      refine length_le_length_intercalate fun t ht => ?_
      obtain ⟨g, -, rfl⟩ := List.mem_map.1 ht
      exact List.append_ne_nil_of_right_ne_nil _ (List.append_ne_nil_of_left_ne_nil (by decide) _)
    rw [List.length_map] at hlength
    rw [List.length_append, List.length_append]
    omega
  have hobject : Takes ((fun t => propertiesReader r t.length t : Reader _) >>= fun properties =>
        pure (object properties))
      (List.intercalate ", " (gs.map fun g => propertyText (key g) (text g)) ++ " \x7d")
      (object (gs.map fun g => (key g, v g))) :=
    Takes.cast (List.append_nil _) (hproperties.bind Takes.pure)
  exact (Takes.either hparts false).bind hobject

/-- **An object with properties is read as these, in order.** -/
theorem takes_braced {depth : Nat} (hkeys : ∀ g ∈ gs, (key g).isIdentifier = true)
    (hvalues : ∀ g ∈ gs, TakesWord (reader depth) (text g) (v g)) (hne : gs ≠ []) :
    Takes (reader (depth + 1))
      (CallObject.braced (gs.map fun g => propertyText (key g) (text g)))
      (object (gs.map fun g => (key g, v g))) := by
  have hbrace : ("\x7b ".toList : Text) = "\x7b" ++ " " := Text.ofList_append (s := ['\x7b']) rfl
  have hparts : Text.parts "\x7b" " " = true := Text.parts_ofList (by decide)
  have hobject : Takes (Reader.optional "\x7b" >>= fun more => if more = true then
        objectReader (reader depth) else do return value (← valueReader))
      ("\x7b" ++ (" " ++ (List.intercalate ", " (gs.map fun g => propertyText (key g) (text g))
        ++ " \x7d")))
      (object (gs.map fun g => (key g, v g))) :=
    Takes.optional_bind (c := true) hparts (takes_objectReader hkeys hvalues hne)
  rw [CallObject.braced, hbrace, List.append_assoc, List.append_assoc]
  exact hobject

/-- An object without properties is read as such. -/
theorem takes_empty (depth : Nat) : Takes (reader (depth + 1)) ['\x7b', '\x7d'] (object []) :=
  fun _ => rfl

/-- A value is read wherever there may be an object. -/
theorem takes_value {value : PropertyValue} (depth : Nat)
    (h : ∀ name, value = .param name → name.isIdentifier = true) :
    TakesWord (reader depth) (valueText value) (.value value) := by
  have hvalue : TakesWord (valueReader >>= fun w => pure (Expression.value w)) (valueText value)
      (.value value) :=
    (takes_valueReader h).bind_nil Takes.pure
  cases depth with
  | zero => exact hvalue
  | succ depth =>
    intro rest hrest
    -- a value does not start with a brace
    have hparts : Text.parts ['\x7b'] (valueText value) = true := by cases value <;> rfl
    change (Reader.optional "\x7b" (valueText value ++ rest)).bind _ = _
    rw [Reader.optional, String.toList_ofList, Text.isPrefixOf_of_parts hparts]
    exact hvalue rest hrest

end Expression

end HandlerGen
