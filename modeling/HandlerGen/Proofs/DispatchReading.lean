import HandlerGen.Proofs.ClassFileReading
/-!
# The dispatch map read back

The reader of the file with the dispatch map goes through it line by
line, as that of the class file does. A key is decoded, and an entry
tells by its second line whether the parameters are read and passed on;
one that reads them without passing them on is refused, and so is one
that passes them on unread.
-/

namespace HandlerGen

/-- What the file says of one entry. -/
structure DispatchReading where
  /-- The name that the key stands for. -/
  name : Text
  passesParams : Bool
  method : Text
deriving DecidableEq, Repr

/-- What the file should say of an entry. -/
def Entry.dispatchReading (e : Entry) : DispatchReading where
  name := e.name
  passesParams := e.hasParams
  method := e.methodName

namespace DispatchEntry

/-- The line that reads the parameters, with its end. -/
def paramsText : Text := "      const params = request.params.arguments;" ++ ['\n']

/-- Takes an entry. -/
def reader : Reader DispatchReading := do
  Reader.expect "    "
  let name ← StringLiteral.reader
  Reader.line ": (request: any) => \x7b"
  Reader.line "      const port = handlePortParam(request);"
  let passesParams ← Reader.optional paramsText
  Reader.expect "      return rpcHandlers."
  let method ← Reader.before "("
  Reader.line (if passesParams then "port, params);" else "port);")
  Reader.line closingLine
  return ⟨name, passesParams, method⟩

/-- **An entry is taken from its lines.** -/
theorem takes_reader {e : Entry} (h : e.methodName.IsName) :
    Takes reader (Text.ofLines e.dispatch.lines) e.dispatchReading := by
  have hparts : paramsText.parts "      return rpcHandlers." = true := by
    unfold paramsText
    have happend := Text.parts_append (s := "      const params = request.params.arguments;")
      (t := "      return rpcHandlers.") (Text.parts_ofList (by decide)) ['\n'] []
    rwa [List.append_nil] at happend
  have hmethod : Takes (Reader.before "(") (e.methodName ++ "(") e.methodName :=
    Takes.before (Text.head?_ofList rfl) (h.notMem (by decide))
  refine Takes.cast ?_ ((Takes.expect _).bind ((StringLiteral.takes_literal e.name).bind
    ((Takes.line _).bind ((Takes.line _).bind (Takes.optional_bind (c := e.hasParams) hparts
      ((Takes.expect _).bind (hmethod.bind
        ((Takes.line _).bind ((Takes.line _).bind Takes.pure)))))))))
  have hpassing : ("(port, params);" : Text) = "(" ++ "port, params);" := Text.ofList_append rfl
  have homitting : ("(port);" : Text) = "(" ++ "port);" := Text.ofList_append rfl
  unfold lines openingLine callLines Entry.dispatch paramsText
  cases e.hasParams with
  | true =>
    simp only [if_true, hpassing, Text.ofLines_cons, Text.ofLines_append, Text.ofLines_nil,
      List.append_assoc, List.append_nil]
  | false =>
    simp only [Bool.false_eq_true, if_false, homitting, Text.ofLines_cons, Text.ofLines_append,
      Text.ofLines_nil, List.append_assoc, List.append_nil, List.nil_append]

end DispatchEntry

namespace DispatchMap

/-- Takes the entries with the end of the file. -/
def entriesReader : Reader (List DispatchReading) := do
  let entries ← Reader.many DispatchEntry.reader
  Reader.expect (Text.ofLines closingLines)
  return entries

/-- Takes the file. -/
def reader : Reader (List DispatchReading) := do
  let _ ← headerReader
  Reader.expect (Text.ofLines openingLines)
  entriesReader

/-- Reads the file. -/
def read (t : Text) : Option (List DispatchReading) := reader.whole t

/-- The end of the object literal is no entry. -/
theorem entryReader_closing (rest : Text) :
    DispatchEntry.reader (Text.ofLines closingLines ++ rest) = none := by
  unfold closingLines
  rw [Text.ofLines_cons, List.append_assoc, List.append_assoc]
  exact Reader.bind_eq_none (Reader.expect_eq_none (Text.parts_ofList (by decide)) _)

theorem takes_entriesReader {es : List Entry} (h : ∀ e ∈ es, e.methodName.IsName) :
    Takes entriesReader
      (es.flatMap (fun e => Text.ofLines e.dispatch.lines) ++ Text.ofLines closingLines)
      (es.map Entry.dispatchReading) :=
  Takes.many_bind (fun e he => DispatchEntry.takes_reader (h e he))
    (fun _ _ => Text.ofLines_cons_ne_nil _ _) entryReader_closing
    (Takes.cast (List.append_nil _) ((Takes.expect _).bind Takes.pure))

end DispatchMap

/-- The text of a dispatch map is put together from the texts of its
entries. -/
theorem Context.dispatchMap_text (c : Context) :
    c.dispatchMap.text = Text.ofLines (headerLines c.sources)
      ++ (Text.ofLines DispatchMap.openingLines
        ++ (c.entries.flatMap (fun e => Text.ofLines e.dispatch.lines)
          ++ Text.ofLines DispatchMap.closingLines)) := by
  unfold DispatchMap.text DispatchMap.lines dispatchMap
  simp only [Text.ofLines_append, Text.ofLines_flatMap]

/-- **The dispatch map is read back**, whatever its entries are. -/
theorem DispatchMap.read_text {c : Context} (hentries : ∀ e ∈ c.entries, e.methodName.IsName)
    (hsources : ∀ s ∈ c.sources, '\n' ∉ s) :
    read c.dispatchMap.text = some (c.entries.map Entry.dispatchReading) :=
  Takes.whole (Takes.cast c.dispatchMap_text.symm ((takes_headerReader hsources).bind
    ((Takes.expect _).bind (takes_entriesReader hentries))))

end HandlerGen
