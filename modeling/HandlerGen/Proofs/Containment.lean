import HandlerGen.Proofs.CodeLexer
import HandlerGen.Proofs.DispatchReading
/-!
# The texts of a user stay in their place

Descriptions go into comments and remote methods into literals, and they
never leave them. Taking all of them out of a context changes nothing of
the code of the class file under its comments and literals
(`Context.sameCode_classFile`), so **descriptors that differ in these
texts alone have the same code** (`Artifact.same_code`).
-/

namespace HandlerGen

open CodeLexer

/-! ## Taking the texts out -/

/-- A descriptor less the texts that a user is free in. -/
def Descriptor.withoutTexts (d : Descriptor) : Descriptor :=
  { d with description := [], rpcMethod := [] }

/-- An entry less the texts that a user is free in. -/
def Entry.withoutTexts (e : Entry) : Entry := { e with docLines := [], rpcMethod := [] }

/-- A context less the texts that a user is free in. -/
def Context.withoutTexts (c : Context) : Context :=
  { c with entries := c.entries.map Entry.withoutTexts }

theorem Entry.ofDescriptor_withoutTexts (d : Descriptor) :
    ofDescriptor d.withoutTexts = (ofDescriptor d).map withoutTexts := by
  unfold ofDescriptor Descriptor.withoutTexts
  cases d.parameters.expression with
  | error e => rfl
  | ok expression =>
    cases d.parameters.fields with
    | error e => rfl
    | ok fields => rfl

namespace Context

theorem entriesOf_withoutTexts {ds : List Descriptor} {es : List Entry}
    (h : entriesOf ds = .ok es) :
    entriesOf (ds.map Descriptor.withoutTexts) = .ok (es.map Entry.withoutTexts) := by
  rw [entriesOf_eq_ok_iff] at h ⊢
  calc (ds.map Descriptor.withoutTexts).map Entry.ofDescriptor
      = (ds.map Entry.ofDescriptor).map (Except.map Entry.withoutTexts) := by
        simp only [List.map_map, Function.comp_def, Entry.ofDescriptor_withoutTexts]
    _ = (es.map .ok).map (Except.map Entry.withoutTexts) := by rw [h]
    _ = (es.map Entry.withoutTexts).map .ok := by
        rw [List.map_map, List.map_map]
        rfl

/-- Descriptors less their texts have the context less its texts. -/
theorem ofDescriptors_withoutTexts {ds : List Descriptor} {c : Context}
    (h : ofDescriptors ds = .ok c) :
    ofDescriptors (ds.map Descriptor.withoutTexts) = .ok c.withoutTexts := by
  obtain ⟨es, hes, rfl⟩ := eq_of_ofDescriptors h
  have hnames : (ds.map Descriptor.withoutTexts).map Descriptor.name
      = ds.map Descriptor.name := by
    rw [List.map_map]
    rfl
  have hsources : (ds.map Descriptor.withoutTexts).map Descriptor.source
      = ds.map Descriptor.source := by
    rw [List.map_map]
    rfl
  rw [ofDescriptors, entriesOf_withoutTexts hes, duplicateNames, sourceNames, hnames, hsources]
  rfl

/-- The dispatch map has none of these texts. -/
theorem dispatchMap_withoutTexts (c : Context) : c.withoutTexts.dispatchMap = c.dispatchMap := by
  unfold dispatchMap withoutTexts
  rw [List.map_map]
  rfl

end Context

/-! ## Code -/

namespace CodeLexer

theorem isCode_of_isName {t : Text} (h : t.IsName) : IsCode t :=
  isCode_of_notMem (h.notMem (by decide)) (h.notMem (by decide))

theorem isCode_of_isObject {t : Text} (h : CallObject.IsObject t) : IsCode t :=
  isCode_of_notMem (h.notMem (by decide)) (h.notMem (by decide))

theorem isCode_ofLines {ls : List Text} (h : ∀ l ∈ ls, IsCode l) : IsCode (Text.ofLines ls) := by
  intro c hc
  obtain ⟨l, hl, hc⟩ := List.mem_flatMap.1 hc
  rcases List.mem_append.1 hc with hc | hc
  · exact h l hl c hc
  · obtain rfl := List.mem_singleton.1 hc
    rfl

end CodeLexer

namespace SameCode

variable {s s' s'' : State} {t : Text} {ls ms : List Text}

/-- A line that both texts start with goes by. -/
theorem line (s' : State) (h : (run s (t ++ ['\n'])).1 = s')
    (hls : SameCode s' (Text.ofLines ls) (Text.ofLines ms) s'') :
    SameCode s (Text.ofLines ((String.ofList t).toList :: ls))
      (Text.ofLines ((String.ofList t).toList :: ms)) s'' := by
  rw [String.toList_ofList, Text.ofLines_cons, Text.ofLines_cons]
  exact (refl h).append hls

theorem of_isCode (h : IsCode t) : SameCode .code t t .code := refl (run_of_isCode h)

/-- A line of code that both texts start with goes by. -/
theorem code_line {k : Text} (h : IsCode k)
    (hls : SameCode .code (Text.ofLines ls) (Text.ofLines ms) s') :
    SameCode .code (Text.ofLines (k :: ls)) (Text.ofLines (k :: ms)) s' := by
  rw [Text.ofLines_cons, Text.ofLines_cons]
  exact ((of_isCode h).append (refl rfl)).append hls

theorem code_lines {ks : List Text} (h : ∀ k ∈ ks, IsCode k)
    (hls : SameCode .code (Text.ofLines ls) (Text.ofLines ms) s') :
    SameCode .code (Text.ofLines (ks ++ ls)) (Text.ofLines (ks ++ ms)) s' := by
  rw [Text.ofLines_append, Text.ofLines_append]
  exact (of_isCode (isCode_ofLines h)).append hls

end SameCode

/-- The lines that open a file end in the code, if no source ends a
line. -/
theorem sameCode_headerLines {sources : List Text}
    (h : ∀ s ∈ sources, ∀ c ∈ s, isLineEnd c = false) :
    SameCode .code (Text.ofLines (headerLines sources)) (Text.ofLines (headerLines sources))
      .code := by
  have hnames : ∀ c ∈ List.intercalate ", " sources, isLineEnd c = false := by
    intro c hc
    rcases Text.mem_of_mem_intercalate hc with hc | ⟨s, hs, hc⟩
    · have hmark : MadeOf (fun c => !isLineEnd c) ", " := .ofList (by decide)
      simpa using hmark c hc
    · exact h s hs c hc
  have hrest : SameCode .code
      (Text.ofLines ["// Run \"generate-rpc-handlers\" to update", ""])
      (Text.ofLines ["// Run \"generate-rpc-handlers\" to update", ""]) .code :=
    .line .code (by decide) (.line .code (by decide) (.nil .code))
  unfold headerLines
  refine SameCode.line .code (by decide) ?_
  rw [Text.ofLines_cons]
  refine SameCode.append (SameCode.append (SameCode.append (SameCode.refl_ofList (by decide))
    (SameCode.refl (run_line hnames))) (SameCode.refl (by decide))) hrest

/-- The opening of the class ends in the code. -/
theorem ClassFile.sameCode_openingLines :
    SameCode .code (Text.ofLines openingLines) (Text.ofLines openingLines) .code := by
  refine .line .blockComment (by decide) (.line .blockComment (by decide)
    (.line .blockComment (by decide) (.line .blockComment (by decide)
      (.line .code (by decide) ?_))))
  exact .line .code (by decide) (.line .code (by decide) (.line .code (by decide)
    (.line .code (by decide) (.line .code (by decide) (.line .code (by decide) (.nil _))))))

/-- The lines before the entries of the dispatch map end in the code. -/
theorem DispatchMap.sameCode_openingLines :
    SameCode .code (Text.ofLines openingLines) (Text.ofLines openingLines) .code := by
  refine .line .code (by decide +kernel) (.line .code (by decide) (.line .blockComment (by decide)
    (.line .blockComment (by decide +kernel) (.line .blockComment (by decide)
      (.line .blockComment (by decide) (.line .blockComment (by decide +kernel)
        (.line .blockComment (by decide) (.line .code (by decide) ?_))))))))
  exact .line .code (by decide) (.line .code (by decide) (.line .code (by decide)
    (.line .code (by decide) (.line .code (by decide) (.nil _)))))

namespace CodeLexer

/-- A line of a doc comment leaves nothing. -/
theorem run_docLine {l : Text} (h : ¬ DocComment.closing <:+: l) :
    run .blockComment (Method.docLine l ++ ['\n']) = (.blockComment, []) := by
  have hmargin : run .blockComment ("   *" : Text) = (.asterisk, []) := by
    rw [show ("   *" : String).toList = _ from String.toList_ofList]
    rfl
  unfold Method.docLine
  rw [List.append_assoc, run_append, hmargin]
  cases l with
  | nil => rfl
  | cons c l =>
    obtain ⟨s, hs, hrun⟩ := run_block (s := .blockComment) (.inl rfl) (fun h => by simp at h) h
    have hline : run .asterisk (' ' :: ((c :: l) ++ ['\n'])) = (.blockComment, []) := by
      change ((run .blockComment _).1, [] ++ (run .blockComment _).2) = _
      rw [run_append, hrun]
      rcases hs with rfl | rfl
      · rfl
      · rfl
    exact hline ▸ rfl

theorem run_docLines {ls : List Text} (h : ∀ l ∈ ls, ¬ DocComment.closing <:+: l) :
    run .blockComment (Text.ofLines (ls.map Method.docLine)) = (.blockComment, []) := by
  rw [Text.ofLines_map]
  induction ls with
  | nil => rfl
  | cons l ls ih =>
    rw [List.flatMap_cons, run_append, run_docLine (h l List.mem_cons_self)]
    simp only [ih fun m hm => h m (List.mem_cons_of_mem l hm), List.append_nil]

end CodeLexer

namespace Method

theorem isCode_verification (m : Method) : ∀ l ∈ m.verification, IsCode l := by
  unfold verification
  split
  · exact List.forall_mem_singleton.2 (MadeOf.ofList (by decide))
  · exact fun l hl => absurd hl List.not_mem_nil

theorem isCode_returnLine (m : Method) : IsCode m.returnLine := by
  unfold returnLine
  split
  · exact MadeOf.ofList (by decide)
  · exact MadeOf.ofList (by decide)

end Method

namespace Entry

variable {e : Entry}

/-- The type of an entry is code. -/
theorem isCode_type (h : e.Legible) : IsCode (Text.ofLines e.type.lines) := by
  have hname : IsCode e.paramsType := isCode_of_isName h.paramsType
  have hrecord : IsCode ("export type " ++ e.paramsType ++ " = Record<string, unknown>;") :=
    ((MadeOf.ofList (by decide)).append hname).append (.ofList (by decide))
  have hopening : IsCode ("export interface " ++ e.paramsType ++ " \x7b") :=
    ((MadeOf.ofList (by decide)).append hname).append (.ofList (by decide))
  have hfields : ∀ l ∈ e.paramFields.map ParamsType.fieldLine, IsCode l := by
    refine List.forall_mem_map.2 fun f hf => ?_
    exact ((MadeOf.ofList (by decide)).append (isCode_of_isName (h.paramFields f hf))).append
      (.ofList (by decide))
  have hclosing : ∀ l ∈ ParamsType.closingLines, IsCode l :=
    List.forall_mem_cons.2
      ⟨.ofList (by decide), List.forall_mem_singleton.2 (MadeOf.ofList (by decide))⟩
  refine isCode_ofLines ?_
  unfold ParamsType.lines type
  split
  · exact List.forall_mem_cons.2
      ⟨hrecord, List.forall_mem_singleton.2 (MadeOf.ofList (by decide))⟩
  · exact List.forall_mem_cons.2 ⟨hopening, List.forall_mem_append.2 ⟨hfields, hclosing⟩⟩

/-- The line that opens a method is code. -/
theorem isCode_signature (h : e.Legible) : IsCode e.method.signature :=
  ((((MadeOf.ofList (by decide)).append (isCode_of_isName h.methodName)).append
    (MadeOf.ofList (by decide))).append (isCode_of_isName h.paramsType)).append
      (MadeOf.ofList (by decide))

/-- The call is the same with any other literal. -/
theorem sameCode_callLine (h : e.Legible) :
    SameCode .code e.method.callLine e.withoutTexts.method.callLine .code := by
  obtain ⟨before, hbefore⟩ : ∃ t : Text,
      "    const result = await this.rpcUtils." ++ e.callPath.function ++ "(" = t := ⟨_, rfl⟩
  obtain ⟨behind, hbehind⟩ : ∃ t : Text,
      ", port, " ++ e.paramsExpression ++ ");" = t := ⟨_, rfl⟩
  have hcode : IsCode before := hbefore ▸ ((MadeOf.ofList (by decide)).append
    (isCode_of_isName e.callPath.isName_function)).append (MadeOf.ofList (by decide))
  have hcode' : IsCode behind := hbehind ▸ ((MadeOf.ofList (by decide)).append
    (isCode_of_isObject h.paramsExpression)).append (MadeOf.ofList (by decide))
  have hline : ∀ t : Text, "    const result = await this.rpcUtils." ++ e.callPath.function ++ "("
      ++ t ++ ", port, " ++ e.paramsExpression ++ ");" = before ++ t ++ behind := by
    intro t
    rw [← hbefore, ← hbehind]
    simp only [List.append_assoc]
  unfold Method.callLine Entry.withoutTexts Entry.method
  rw [hline, hline]
  exact ((SameCode.of_isCode hcode).append (.literal _ _)).append (.of_isCode hcode')

/-- **The method of an entry is the same without its texts.** -/
theorem sameCode_method (h : e.Legible) :
    SameCode .code (Text.ofLines e.method.lines) (Text.ofLines e.withoutTexts.method.lines)
      .code := by
  have hlast : SameCode .code (Text.ofLines [e.method.returnLine, "  \x7d"])
      (Text.ofLines [e.method.returnLine, "  \x7d"]) .code :=
    .of_isCode (isCode_ofLines (List.forall_mem_cons.2
      ⟨Method.isCode_returnLine _, List.forall_mem_singleton.2 (MadeOf.ofList (by decide))⟩))
  have hcall : SameCode .code
      (Text.ofLines [e.method.callLine, e.method.returnLine, "  \x7d"])
      (Text.ofLines [e.withoutTexts.method.callLine, e.method.returnLine, "  \x7d"]) .code := by
    rw [Text.ofLines_cons, Text.ofLines_cons]
    exact ((sameCode_callLine h).append (.refl rfl)).append hlast
  have hbody : SameCode .blockComment (Text.ofLines e.method.bodyLines)
      (Text.ofLines e.withoutTexts.method.bodyLines) .code := by
    refine SameCode.line .code (by decide) ?_
    exact SameCode.code_line (isCode_signature h)
      (SameCode.code_lines (Method.isCode_verification _) hcall)
  refine SameCode.line .code (by decide) (SameCode.line .blockComment (by decide) ?_)
  rw [Text.ofLines_append, Text.ofLines_append]
  exact SameCode.append ⟨[], run_docLines fun l hl => (h.docLines l hl).2, rfl⟩ hbody

/-- The entry of the dispatch map ends in the code. -/
theorem sameCode_dispatch (h : e.Legible) :
    SameCode .code (Text.ofLines e.dispatch.lines) (Text.ofLines e.dispatch.lines) .code := by
  have hmethod : IsCode e.methodName := isCode_of_isName h.methodName
  have hopening : SameCode .code e.dispatch.openingLine e.dispatch.openingLine .code :=
    ((SameCode.of_isCode (MadeOf.ofList (by decide))).append (.literal e.name e.name)).append
      (.of_isCode (MadeOf.ofList (by decide)))
  have hcall : ∀ l ∈ e.dispatch.callLines, IsCode l := by
    unfold DispatchEntry.callLines dispatch
    split
    · exact List.forall_mem_cons.2 ⟨MadeOf.ofList (by decide), List.forall_mem_singleton.2
        (((MadeOf.ofList (by decide)).append hmethod).append (MadeOf.ofList (by decide)))⟩
    · exact List.forall_mem_singleton.2
        (((MadeOf.ofList (by decide)).append hmethod).append (MadeOf.ofList (by decide)))
  unfold DispatchEntry.lines
  rw [Text.ofLines_cons]
  refine (hopening.append (.refl rfl)).append (.line .code (by decide) ?_)
  exact .code_lines hcall (.line .code (by decide) (.nil _))

end Entry

namespace Context

variable {c : Context}

/-- **The class file is the same without its texts.** -/
theorem sameCode_classFile (hentries : ∀ e ∈ c.entries, e.Legible)
    (hsources : ∀ s ∈ c.sources, ∀ ch ∈ s, isLineEnd ch = false) :
    SameCode .code c.classFile.text c.withoutTexts.classFile.text .code := by
  have himports : SameCode .code (Text.ofLines ClassFile.importLines)
      (Text.ofLines ClassFile.importLines) .code :=
    .line .code (by decide) (.line .code (by decide) (.nil _))
  have htypes : SameCode .code (c.entries.flatMap fun e => Text.ofLines e.type.lines)
      (c.entries.flatMap fun e => Text.ofLines e.type.lines) .code :=
    .flatMap fun e he => .of_isCode (Entry.isCode_type (hentries e he))
  have hmethods : SameCode .code (c.entries.flatMap fun e => Text.ofLines e.method.lines)
      (c.entries.flatMap fun e => Text.ofLines e.withoutTexts.method.lines) .code :=
    .flatMap fun e he => Entry.sameCode_method (hentries e he)
  have hclosing : SameCode .code (Text.ofLines ClassFile.closingLines)
      (Text.ofLines ClassFile.closingLines) .code := .line .code (by decide) (.nil _)
  have htext : c.withoutTexts.classFile.text = Text.ofLines (headerLines c.sources)
      ++ (Text.ofLines ClassFile.importLines
        ++ (c.entries.flatMap (fun e => Text.ofLines e.type.lines)
          ++ (Text.ofLines ClassFile.openingLines
            ++ (c.entries.flatMap (fun e => Text.ofLines e.withoutTexts.method.lines)
              ++ Text.ofLines ClassFile.closingLines)))) := by
    rw [classFile_text, withoutTexts, List.flatMap_map, List.flatMap_map]
    rfl
  rw [classFile_text, htext]
  exact (sameCode_headerLines hsources).append (himports.append (htypes.append
    (ClassFile.sameCode_openingLines.append (hmethods.append hclosing))))

/-- The dispatch map ends in the code. -/
theorem sameCode_dispatchMap (hentries : ∀ e ∈ c.entries, e.Legible)
    (hsources : ∀ s ∈ c.sources, ∀ ch ∈ s, isLineEnd ch = false) :
    SameCode .code c.dispatchMap.text c.dispatchMap.text .code := by
  have hdispatch : SameCode .code (c.entries.flatMap fun e => Text.ofLines e.dispatch.lines)
      (c.entries.flatMap fun e => Text.ofLines e.dispatch.lines) .code :=
    .flatMap fun e he => Entry.sameCode_dispatch (hentries e he)
  have hclosing : SameCode .code (Text.ofLines DispatchMap.closingLines)
      (Text.ofLines DispatchMap.closingLines) .code :=
    .line .code (by decide) (.line .code (by decide) (.nil _))
  rw [dispatchMap_text]
  exact (sameCode_headerLines hsources).append
    (DispatchMap.sameCode_openingLines.append (hdispatch.append hclosing))

end Context

namespace Artifact

/-- **What a user writes does not get out of its place.** Descriptors that
differ in descriptions and remote methods alone give the same dispatch
map, and class files with the same code. The lexer ends in the code in
both files. -/
theorem same_code {ds₁ ds₂ : List Descriptor} {c₁ c₂ : Context} (hds₁ : ∀ d ∈ ds₁, d.Accepted)
    (hds₂ : ∀ d ∈ ds₂, d.Accepted) (hsources : ∀ d ∈ ds₁, ∀ c ∈ d.source, isLineEnd c = false)
    (hc₁ : Context.ofDescriptors ds₁ = .ok c₁) (hc₂ : Context.ofDescriptors ds₂ = .ok c₂)
    (hsame : ds₁.map Descriptor.withoutTexts = ds₂.map Descriptor.withoutTexts) :
    ∃ a₁ a₂ left, ofData c₁.data = .ok a₁ ∧ ofData c₂.data = .ok a₂
      ∧ a₁.mapText = a₂.mapText ∧ (run .code a₁.mapText).1 = .code
      ∧ run .code a₁.classText = (.code, left) ∧ run .code a₂.classText = (.code, left) := by
  have hcontexts : c₁.withoutTexts = c₂.withoutTexts := by
    have h₁ := Context.ofDescriptors_withoutTexts hc₁
    rw [hsame, Context.ofDescriptors_withoutTexts hc₂] at h₁
    exact (Except.ok.inj h₁).symm
  have hsources₁ : ∀ s ∈ c₁.sources, ∀ ch ∈ s, isLineEnd ch = false := by
    intro s hs
    obtain ⟨d, hd, rfl⟩ := Context.mem_sources hc₁ hs
    exact hsources d hd
  have hsources₂ : ∀ s ∈ c₂.sources, ∀ ch ∈ s, isLineEnd ch = false := by
    have hequal : c₁.withoutTexts.sources = c₂.withoutTexts.sources := by rw [hcontexts]
    exact hequal ▸ hsources₁
  have hmaps : c₁.dispatchMap = c₂.dispatchMap := by
    rw [← c₁.dispatchMap_withoutTexts, hcontexts, c₂.dispatchMap_withoutTexts]
  have hcode₁ := Context.sameCode_classFile (Context.legible hds₁ hc₁) hsources₁
  have hcode₂ := Context.sameCode_classFile (Context.legible hds₂ hc₂) hsources₂
  rw [← hcontexts] at hcode₂
  obtain ⟨left, hleft₁, hleft₂⟩ := hcode₁.trans hcode₂.symm
  obtain ⟨left', hmap, -⟩ :=
    Context.sameCode_dispatchMap (Context.legible hds₁ hc₁) hsources₁
  exact ⟨_, _, left, c₁.ofData_data, c₂.ofData_data, congrArg DispatchMap.text hmaps,
    congrArg Prod.fst hmap, hleft₁, hleft₂⟩

/-- A description and a remote method that try to get out. -/
theorem same_code_hotReload :
    ∃ c₁ c₂ a₁ a₂ left, Context.ofDescriptors [.hotReload] = .ok c₁
      ∧ Context.ofDescriptors [{ Descriptor.hotReload with
          description := "*/ x(); /*", rpcMethod := "\", x(), \"" }] = .ok c₂
      ∧ ofData c₁.data = .ok a₁ ∧ ofData c₂.data = .ok a₂
      ∧ run .code a₁.classText = (.code, left) ∧ run .code a₂.classText = (.code, left) := by
  obtain ⟨c₁, hc₁⟩ : ∃ c, Context.ofDescriptors [.hotReload] = .ok c := ⟨_, rfl⟩
  obtain ⟨c₂, hc₂⟩ : ∃ c, Context.ofDescriptors [{ Descriptor.hotReload with
      description := "*/ x(); /*", rpcMethod := "\", x(), \"" }] = .ok c := ⟨_, rfl⟩
  have haccepted : Descriptor.Accepted { Descriptor.hotReload with
      description := "*/ x(); /*", rpcMethod := "\", x(), \"" } :=
    Descriptor.accepted_iff.2 ⟨by decide, by decide, by decide, by decide, by decide⟩
  have hsource : ∀ c ∈ Descriptor.hotReload.source, isLineEnd c = false := by
    have hline : MadeOf (fun c => !isLineEnd c) "core.yaml" := .ofList (by decide)
    exact fun c hc => by simpa using hline c hc
  obtain ⟨a₁, a₂, left, ha₁, ha₂, -, -, hleft₁, hleft₂⟩ :=
    same_code (List.forall_mem_singleton.2 Descriptor.accepted_hotReload)
      (List.forall_mem_singleton.2 haccepted) (List.forall_mem_singleton.2 hsource) hc₁ hc₂ rfl
  exact ⟨c₁, c₂, a₁, a₂, left, hc₁, hc₂, ha₁, ha₂, hleft₁, hleft₂⟩

end Artifact

end HandlerGen
