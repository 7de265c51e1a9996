import HandlerGen.Proofs.LegibleEntries
import HandlerGen.Proofs.Literal
/-!
# The class file read back

The reader of the class file goes through the file line by line: the
header, the types, the opening of the class, and the methods. It knows
nothing of descriptors.
-/

namespace HandlerGen

/-! ## Lines -/

namespace Text

theorem ofLines_nil : ofLines [] = [] := rfl

theorem ofLines_cons (l : Text) (ls : List Text) :
    ofLines (l :: ls) = (l ++ ['\n']) ++ ofLines ls := List.flatMap_cons

theorem ofLines_append (ls ms : List Text) : ofLines (ls ++ ms) = ofLines ls ++ ofLines ms :=
  List.flatMap_append

theorem ofLines_map {α : Type} (f : α → Text) (as : List α) :
    ofLines (as.map f) = as.flatMap fun a => f a ++ ['\n'] := List.flatMap_map f _ as

theorem ofLines_flatMap {α β : Type} (f : α → β) (g : β → List Text) (as : List α) :
    ofLines ((as.map f).flatMap g) = as.flatMap fun a => ofLines (g (f a)) := by
  rw [List.flatMap_map, ofLines, List.flatMap_assoc]
  rfl

theorem ofLines_cons_ne_nil (l : Text) (ls : List Text) : ofLines (l :: ls) ≠ [] := by
  rw [ofLines_cons, List.append_assoc]
  exact List.append_ne_nil_of_right_ne_nil l (List.cons_ne_nil _ _)

end Text

namespace ParamsType

/-- Takes the line of a name that a method reads. -/
def fieldReader : Reader Text := do
  Reader.expect "  "
  Reader.before ("?: unknown;" ++ ['\n'])

/-- Takes the lines of an interface behind the one that opens it. There is
one name at least. -/
def fieldsReader : Reader (List Text) := do
  let first ← fieldReader
  let others ← Reader.many fieldReader
  Reader.expect (Text.ofLines closingLines)
  return first :: others

/-- Takes a type with the empty line behind it. -/
def reader : Reader ParamsType := do
  if ← Reader.either "export type " "export interface " then
    let name ← Reader.before (" = Record<string, unknown>;" ++ ['\n'])
    Reader.line []
    return ⟨name, []⟩
  else
    let name ← Reader.before (" \x7b" ++ ['\n'])
    return ⟨name, ← fieldsReader⟩

theorem takes_fieldReader {f : Text} (h : '?' ∉ f) :
    Takes fieldReader (fieldLine f ++ ['\n']) f := by
  refine Takes.cast ?_ ((Takes.expect _).bind (Takes.before (Text.head?_ofList_append rfl _) h))
  rw [fieldLine, List.append_assoc, List.append_assoc]

/-- The brace that closes an interface is no name. -/
theorem fieldReader_closing (rest : Text) :
    fieldReader (Text.ofLines closingLines ++ rest) = none := by
  unfold closingLines
  rw [Text.ofLines_cons, List.append_assoc, List.append_assoc]
  exact Reader.bind_eq_none (Reader.expect_eq_none (Text.parts_ofList (by decide)) _)

/-- The names of an interface are taken one by one. -/
theorem takes_fieldsReader {f : Text} {fs : List Text} (hfs : ∀ g ∈ f :: fs, '?' ∉ g) :
    Takes fieldsReader (Text.ofLines ((f :: fs).map fieldLine ++ closingLines)) (f :: fs) := by
  have hothers : ∀ g ∈ fs, Takes fieldReader (fieldLine g ++ ['\n']) g :=
    fun g hg => takes_fieldReader (hfs g (List.mem_cons_of_mem f hg))
  refine Takes.cast ?_ ((takes_fieldReader (hfs f List.mem_cons_self)).bind
    (Takes.many_bind (v := id) hothers
      (fun g _ => List.append_ne_nil_of_right_ne_nil _ (List.cons_ne_nil _ _)) fieldReader_closing
      (Takes.cast (List.append_nil _) ((Takes.expect _).bind ?_))))
  · rw [List.map_cons, List.cons_append, Text.ofLines_cons, Text.ofLines_append, Text.ofLines_map]
  · rw [List.map_id]
    exact Takes.pure

/-- **A type is taken from its lines.** -/
theorem takes_reader {t : ParamsType} (hname : ' ' ∉ t.name) (hfields : ∀ f ∈ t.fields, '?' ∉ f) :
    Takes reader (Text.ofLines t.lines) t := by
  obtain ⟨name, fields⟩ := t
  have hparts : Text.parts "export type " "export interface " = true :=
    Text.parts_ofList (by decide)
  cases fields with
  | nil =>
    refine Takes.cast ?_ ((Takes.either hparts true).bind
      ((Takes.before (Text.head?_ofList_append rfl _) hname).bind ((Takes.line _).bind Takes.pure)))
    simp only [lines, List.isEmpty_nil, if_true, Text.ofLines_cons, List.append_assoc]
    rfl
  | cons f fs =>
    refine Takes.cast ?_ ((Takes.either hparts false).bind
      ((Takes.before (Text.head?_ofList_append rfl _) hname).bind
        ((takes_fieldsReader hfields).bind Takes.pure)))
    simp only [lines, List.isEmpty_cons, Bool.false_eq_true, if_false, Text.ofLines_cons,
      List.append_assoc, List.append_nil]

end ParamsType

/-! ## Methods -/

/-- What the file says of one method. -/
structure MethodReading where
  docLines : List Text
  name : Text
  paramsType : Text
  verifies : Bool
  function : Text
  /-- The remote method that the literal stands for. -/
  rpcMethod : Text
  object : Text
  wraps : Bool
deriving DecidableEq, Repr

/-- What the file should say of the method of an entry. -/
def Entry.reading (e : Entry) : MethodReading where
  docLines := e.docLines
  name := e.methodName
  paramsType := e.paramsType
  verifies := e.needsDebugVerification
  function := e.callPath.function
  rpcMethod := e.rpcMethod
  object := e.paramsExpression
  wraps := e.responseWrapper

namespace Method

/-- Takes a line of a doc comment. -/
def docLineReader : Reader Text := do
  Reader.expect "   *"
  if ← Reader.either ['\n'] [' '] then return []
  else Reader.before ['\n']

/-- Takes the lines of a doc comment with the line that closes it. -/
def docLinesReader : Reader (List Text) := do
  let docLines ← Reader.many docLineReader
  Reader.line "   */"
  return docLines

/-- Takes a doc comment with the empty line before it. -/
def docReader : Reader (List Text) := do
  Reader.line []
  Reader.line "  /**"
  docLinesReader

/-- Takes the line that opens a method, and gives the names of the method
and of the type of its parameters. -/
def signatureReader : Reader (Text × Text) := do
  Reader.expect "  async "
  let name ← Reader.before "(port: number, params?: "
  let paramsType ← Reader.before ("): Promise<unknown> \x7b" ++ ['\n'])
  return (name, paramsType)

/-- Takes the line that makes the remote call, and gives the function, the
remote method and the object. -/
def callReader : Reader (Text × Text × Text) := do
  Reader.expect "    const result = await this.rpcUtils."
  let function ← Reader.before "("
  let rpcMethod ← StringLiteral.reader
  Reader.expect ", port, "
  let object ← Reader.before (");" ++ ['\n'])
  return (function, rpcMethod, object)

/-- The line that verifies the debug mode, with its end. -/
def verificationText : Text := "    await this.rpcUtils.verifyFlutterDebugMode(port);" ++ ['\n']

/-- Takes the line that returns the result, and tells whether the result is
wrapped. -/
def returnReader : Reader Bool :=
  Reader.either ("    return this.rpcUtils.wrapResponse(Promise.resolve(result));" ++ ['\n'])
    ("    return result;" ++ ['\n'])

/-- Takes a method with the empty line before it. -/
def reader : Reader MethodReading := do
  let docLines ← docReader
  let (name, paramsType) ← signatureReader
  let verifies ← Reader.optional verificationText
  let (function, rpcMethod, object) ← callReader
  let wraps ← returnReader
  Reader.line "  \x7d"
  return ⟨docLines, name, paramsType, verifies, function, rpcMethod, object, wraps⟩

/-- A line of a doc comment is taken without its margin. -/
theorem takes_docLineReader {l : Text} (h : '\n' ∉ l) :
    Takes docLineReader (docLine l ++ ['\n']) l := by
  have hparts : Text.parts ['\n'] [' '] = true := by decide
  cases l with
  | nil =>
    refine Takes.cast ?_ ((Takes.expect _).bind ((Takes.either hparts true).bind Takes.pure))
    rw [docLine, List.isEmpty_nil, if_pos rfl, if_pos rfl, List.append_nil, List.append_nil]
  | cons c l =>
    refine Takes.cast ?_ ((Takes.expect _).bind ((Takes.either hparts false).bind
      (Takes.before rfl h)))
    rw [docLine, List.isEmpty_cons, if_neg Bool.false_ne_true, if_neg Bool.false_ne_true,
      List.append_assoc]
    rfl

/-- The line that closes a doc comment is no line of it. -/
theorem docLineReader_closing (rest : Text) : docLineReader (("   */" : Text) ++ rest) = none := by
  have hsplit : ("   */" : Text) = "   *" ++ "/" := Text.ofList_append rfl
  rw [hsplit, List.append_assoc]
  exact Takes.bind_eq_none (Takes.expect _)
    (Reader.bind_eq_none (Reader.either_eq_none (by decide) (by decide) rest))

theorem takes_docLinesReader {ls : List Text} (h : ∀ l ∈ ls, '\n' ∉ l) :
    Takes docLinesReader (ls.flatMap (fun l => docLine l ++ ['\n']) ++ ("   */" ++ ['\n'])) ls := by
  refine Takes.many_bind (v := id) (fun l hl => takes_docLineReader (h l hl))
    (fun l _ => List.append_ne_nil_of_right_ne_nil _ (List.cons_ne_nil _ _)) (fun rest => ?_) ?_
  · rw [List.append_assoc]
    exact docLineReader_closing _
  · rw [List.map_id]
    exact Takes.cast (List.append_nil _) ((Takes.line _).bind Takes.pure)

/-- A doc comment is taken line by line. -/
theorem takes_docReader {ls : List Text} (h : ∀ l ∈ ls, '\n' ∉ l) :
    Takes docReader
      (Text.ofLines ("" :: "  /**" :: (ls.map docLine ++ [("   */" : Text)]))) ls := by
  refine Takes.cast ?_ ((Takes.line _).bind ((Takes.line _).bind (takes_docLinesReader h)))
  simp only [Text.ofLines_cons, Text.ofLines_append, Text.ofLines_map]
  rfl

/-- The line that opens a method is taken for the names in it. -/
theorem takes_signatureReader {m : Method} (hname : '(' ∉ m.name) (htype : ')' ∉ m.paramsType) :
    Takes signatureReader (m.signature ++ ['\n']) (m.name, m.paramsType) := by
  refine Takes.cast ?_ ((Takes.expect _).bind ((Takes.before (Text.head?_ofList rfl) hname).bind
    ((Takes.before (Text.head?_ofList_append rfl _) htype).bind Takes.pure)))
  unfold signature
  simp only [List.append_assoc, List.append_nil]

/-- The line that makes the remote call is taken for what it says. -/
theorem takes_callReader {m : Method} {rpcMethod : Text} (hfunction : '(' ∉ m.function)
    (hrpcMethod : m.rpcMethod = rpcMethod.literal) (hobject : ')' ∉ m.object) :
    Takes callReader (m.callLine ++ ['\n']) (m.function, rpcMethod, m.object) := by
  refine Takes.cast ?_ ((Takes.expect _).bind
    ((Takes.before (Text.head?_ofList rfl) hfunction).bind
      ((StringLiteral.takes_literal rpcMethod).bind ((Takes.expect _).bind
        ((Takes.before (Text.head?_ofList_append rfl _) hobject).bind Takes.pure)))))
  unfold callLine
  simp only [hrpcMethod, List.append_assoc, List.append_nil]

/-- The line that returns the result tells whether it is wrapped. -/
theorem takes_returnReader (m : Method) : Takes returnReader (m.returnLine ++ ['\n']) m.wraps := by
  have hparts : Text.parts
      ("    return this.rpcUtils.wrapResponse(Promise.resolve(result));" ++ ['\n'])
      ("    return result;" ++ ['\n']) = true :=
    Text.parts_append (Text.parts_ofList (by decide)) _ _
  refine Takes.cast ?_ (Takes.either hparts m.wraps)
  rw [returnLine]
  split
  · rfl
  · rfl

/-- The call is not taken for the line that verifies the debug mode. -/
theorem verificationText_parts_callLine (m : Method) :
    verificationText.parts (m.callLine ++ ['\n']) = true := by
  unfold verificationText callLine
  simp only [List.append_assoc]
  exact Text.parts_append (Text.parts_ofList (by decide)) _ _

/-- The line that verifies the debug mode is there or not. -/
theorem ofLines_verification (m : Method) :
    Text.ofLines m.verification = if m.verifies then verificationText else [] := by
  unfold verification verificationText
  split
  · rw [Text.ofLines_cons, Text.ofLines_nil, List.append_nil]
  · rfl

/-- **A method is taken from its lines.** -/
theorem takes_reader {e : Entry} (h : e.Legible) :
    Takes reader (Text.ofLines e.method.lines) e.reading := by
  have hfunction : '(' ∉ e.callPath.function := e.callPath.isName_function.notMem (by decide)
  have hdocLines : ∀ l ∈ e.docLines, '\n' ∉ l := fun l hl => (h.docLines l hl).1
  refine Takes.cast ?_ ((takes_docReader hdocLines).bind
    ((takes_signatureReader (m := e.method) (h.methodName.notMem (by decide))
        (h.paramsType.notMem (by decide))).bind
      (Takes.optional_bind e.method.verificationText_parts_callLine
        ((takes_callReader (m := e.method) hfunction rfl
            (h.paramsExpression.notMem (by decide))).bind
          ((takes_returnReader e.method).bind ((Takes.line _).bind Takes.pure))))))
  unfold lines bodyLines
  simp only [Text.ofLines_cons, Text.ofLines_append, Text.ofLines_nil, ofLines_verification,
    List.append_assoc, List.append_nil, Entry.method]

end Method

/-! ## The file -/

/-- Takes the lines that open a generated file, and gives the names of the
files it comes from as they stand there. -/
def headerReader : Reader Text := do
  Reader.line "// GENERATED CODE - DO NOT MODIFY BY HAND"
  Reader.expect "// This file is generated from "
  let sources ← Reader.before ['\n']
  Reader.line "// Run \"generate-rpc-handlers\" to update"
  Reader.line []
  return sources

/-- The lines that open a file are taken if no name of a file breaks
them. -/
theorem takes_headerReader {sources : List Text} (h : ∀ s ∈ sources, '\n' ∉ s) :
    Takes headerReader (Text.ofLines (headerLines sources)) (List.intercalate ", " sources) := by
  have hbreak : '\n' ∉ List.intercalate ", " sources := by
    intro hc
    rcases Text.mem_of_mem_intercalate hc with hc | ⟨s, hs, hc⟩
    · exact absurd hc (by decide)
    · exact h s hs hc
  refine Takes.cast ?_ ((Takes.line _).bind ((Takes.expect _).bind ((Takes.before rfl hbreak).bind
    ((Takes.line _).bind ((Takes.line _).bind Takes.pure)))))
  unfold headerLines
  simp only [Text.ofLines_cons, Text.ofLines_nil, List.append_assoc, List.append_nil]
  rfl

/-- What the class file says of the handlers. -/
structure ClassFileReading where
  types : List ParamsType
  methods : List MethodReading
deriving DecidableEq, Repr

namespace ClassFile

/-- Takes the types with the opening of the class behind them. -/
def typesReader : Reader (List ParamsType) := do
  let types ← Reader.many ParamsType.reader
  Reader.expect (Text.ofLines openingLines)
  return types

/-- Takes the methods with the end of the class. -/
def methodsReader : Reader (List MethodReading) := do
  let methods ← Reader.many Method.reader
  Reader.expect (Text.ofLines closingLines)
  return methods

/-- Takes the file. -/
def reader : Reader ClassFileReading := do
  let _ ← headerReader
  Reader.expect (Text.ofLines importLines)
  let types ← typesReader
  let methods ← methodsReader
  return ⟨types, methods⟩

/-- Reads the file. -/
def read (t : Text) : Option ClassFileReading := reader.whole t

/-- The opening of the class is no type. -/
theorem typeReader_opening (rest : Text) :
    ParamsType.reader (Text.ofLines openingLines ++ rest) = none := by
  unfold openingLines
  rw [Text.ofLines_cons, List.append_assoc, List.append_assoc]
  exact Reader.bind_eq_none (Reader.either_eq_none (Text.parts_ofList (by decide))
    (Text.parts_ofList (by decide)) _)

/-- The end of the class is no method. -/
theorem methodReader_closing (rest : Text) :
    Method.reader (Text.ofLines closingLines ++ rest) = none := by
  have hparts : Text.parts (([] : Text) ++ ['\n']) "\x7d" = true := by decide
  unfold closingLines
  rw [Text.ofLines_cons, List.append_assoc, List.append_assoc]
  exact Reader.bind_eq_none (Reader.bind_eq_none (Reader.expect_eq_none hparts _))

/-- The types are taken one by one. -/
theorem takes_typesReader {es : List Entry} (h : ∀ e ∈ es, e.Legible) :
    Takes typesReader
      (es.flatMap (fun e => Text.ofLines e.type.lines) ++ Text.ofLines openingLines)
      (es.map Entry.type) := by
  refine Takes.many_bind (v := Entry.type) (fun e he => ?_) (fun e _ => ?_) typeReader_opening ?_
  · refine ParamsType.takes_reader ((h e he).paramsType.notMem (by decide)) fun f hf => ?_
    exact ((h e he).paramFields f hf).notMem (by decide)
  · unfold ParamsType.lines
    split
    · exact Text.ofLines_cons_ne_nil _ _
    · exact Text.ofLines_cons_ne_nil _ _
  · exact Takes.cast (List.append_nil _) ((Takes.expect _).bind Takes.pure)

/-- The methods are taken one by one. -/
theorem takes_methodsReader {es : List Entry} (h : ∀ e ∈ es, e.Legible) :
    Takes methodsReader
      (es.flatMap (fun e => Text.ofLines e.method.lines) ++ Text.ofLines closingLines)
      (es.map Entry.reading) :=
  Takes.many_bind (fun e he => Method.takes_reader (h e he))
    (fun _ _ => Text.ofLines_cons_ne_nil _ _) methodReader_closing
    (Takes.cast (List.append_nil _) ((Takes.expect _).bind Takes.pure))

end ClassFile

/-- The text of a class file is put together from the texts of its
entries. -/
theorem Context.classFile_text (c : Context) :
    c.classFile.text = Text.ofLines (headerLines c.sources)
      ++ (Text.ofLines ClassFile.importLines
        ++ (c.entries.flatMap (fun e => Text.ofLines e.type.lines)
          ++ (Text.ofLines ClassFile.openingLines
            ++ (c.entries.flatMap (fun e => Text.ofLines e.method.lines)
              ++ Text.ofLines ClassFile.closingLines)))) := by
  unfold ClassFile.text ClassFile.lines classFile
  simp only [Text.ofLines_append, Text.ofLines_flatMap]

/-- **The class file is read back**, whatever its entries are. -/
theorem ClassFile.read_text {c : Context} (hentries : ∀ e ∈ c.entries, e.Legible)
    (hsources : ∀ s ∈ c.sources, '\n' ∉ s) :
    read c.classFile.text = some ⟨c.entries.map Entry.type, c.entries.map Entry.reading⟩ := by
  refine Takes.whole (Takes.cast ?_ ((takes_headerReader hsources).bind ((Takes.expect _).bind
    ((takes_typesReader hentries).bind ((takes_methodsReader hentries).bind Takes.pure)))))
  rw [c.classFile_text]
  simp only [List.append_assoc, List.append_nil]

end HandlerGen
