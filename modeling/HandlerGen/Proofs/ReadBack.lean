import HandlerGen.Proofs.DispatchReading
/-!
# The generated files told from their descriptors

What the generated files say of a descriptor, as functions of the
descriptor alone: the type of its parameters (`Descriptor.typeReading`),
its method (`Descriptor.methodReading`) and its entry in the dispatch map
(`Descriptor.dispatchReading`). **Reading the files gives just these, one
for each descriptor and in order** (`Artifact.read_classText`,
`Artifact.read_mapText`). The descriptors must be accepted and their
sources must not break the line; a name may even end in a line feed, as
the checks let it.
-/

namespace HandlerGen

namespace Descriptor

/-- What the class file says of the type of a descriptor's parameters. -/
def typeReading (d : Descriptor) : Except RuleFault ParamsType :=
  d.parameters.fields.map fun fields => ⟨Naming.paramsTypeName d.name, fields⟩

/-- What the class file says of a descriptor's method. -/
def methodReading (d : Descriptor) : Except RuleFault MethodReading :=
  d.parameters.expression.map fun object =>
    { docLines := DocComment.lines d.description
      name := Naming.methodName d.name
      paramsType := Naming.paramsTypeName d.name
      verifies := d.needsDebugVerification
      function := if d.needsDartServiceExtensionProxy then "callFlutterExtension" else "callDartVm"
      rpcMethod := d.rpcMethod
      object := object
      wraps := d.responseWrapper }

/-- What the dispatch map says of a descriptor. -/
def dispatchReading (d : Descriptor) : DispatchReading where
  name := d.name
  passesParams := !d.parameters.isEmpty
  method := Naming.methodName d.name

end Descriptor

namespace Entry

variable {d : Descriptor} {e : Entry}

/-- An entry asks for the type of its descriptor. -/
theorem typeReading_eq (h : ofDescriptor d = .ok e) : d.typeReading = .ok e.type := by
  obtain ⟨-, hfields, -, -, htype, -⟩ := ofDescriptor_cases h
  rw [Descriptor.typeReading, hfields, ← htype]
  rfl

theorem methodReading_eq (h : ofDescriptor d = .ok e) : d.methodReading = .ok e.reading := by
  obtain ⟨hexpression, -, -, hname, htype, hlines, hrpc, hdebug, hpath, hwrap, -⟩ :=
    ofDescriptor_cases h
  have hfunction : e.callPath.function = (if d.needsDartServiceExtensionProxy then
      "callFlutterExtension" else "callDartVm" : Text) := by
    rw [hpath]
    split
    · rfl
    · rfl
  unfold Descriptor.methodReading reading
  rw [hexpression, hname, htype, hlines, hrpc, hdebug, hfunction, hwrap]
  rfl

theorem dispatchReading_eq (h : ofDescriptor d = .ok e) :
    d.dispatchReading = e.dispatchReading := by
  obtain ⟨-, -, hname, hmethod, -, -, -, -, -, -, hparams⟩ := ofDescriptor_cases h
  unfold Descriptor.dispatchReading dispatchReading
  rw [hname, hmethod, hparams]

end Entry

namespace Context

variable {α : Type} {f : Descriptor → α} {g : Entry → α}

/-- Lists that go together member by member do so in all that two members
agree on. -/
theorem map_eq_map_of_map_ofDescriptor (hfg : ∀ {d e}, Entry.ofDescriptor d = .ok e → f d = g e)
    {ds : List Descriptor} {es : List Entry} (h : ds.map Entry.ofDescriptor = es.map .ok) :
    ds.map f = es.map g := by
  induction ds generalizing es with
  | nil =>
    rw [List.map_eq_nil_iff.1 h.symm]
    rfl
  | cons d ds ih =>
    cases es with
    | nil => exact absurd h (List.cons_ne_nil _ _)
    | cons e es =>
      obtain ⟨hentry, hentries⟩ := List.cons.inj h
      rw [List.map_cons, List.map_cons, hfg hentry, ih hentries]

/-- What each entry has from its descriptor all of them have in order. -/
theorem map_eq_map {ds : List Descriptor} {c : Context}
    (hfg : ∀ {d e}, Entry.ofDescriptor d = .ok e → f d = g e) (h : ofDescriptors ds = .ok c) :
    ds.map f = c.entries.map g :=
  map_eq_map_of_map_ofDescriptor hfg (ofDescriptors_cases h).1

variable {ds : List Descriptor} {c : Context}

/-- No source of a context breaks a line if none of its descriptors'
does. -/
theorem break_notMem_sources (hsources : ∀ d ∈ ds, '\n' ∉ d.source)
    (hc : ofDescriptors ds = .ok c) : ∀ s ∈ c.sources, '\n' ∉ s := by
  intro s hs
  obtain ⟨d, hd, rfl⟩ := mem_sources hc hs
  exact hsources d hd

/-- Reading the class file of a context gives the types and the methods of
its descriptors. -/
theorem read_classFile (hds : ∀ d ∈ ds, d.Accepted) (hsources : ∀ d ∈ ds, '\n' ∉ d.source)
    (hc : ofDescriptors ds = .ok c) :
    ∃ r, ClassFile.read c.classFile.text = some r
      ∧ ds.map Descriptor.typeReading = r.types.map .ok
      ∧ ds.map Descriptor.methodReading = r.methods.map .ok := by
  refine ⟨_, ClassFile.read_text (legible hds hc) (break_notMem_sources hsources hc), ?_, ?_⟩
  · rw [List.map_map]
    exact map_eq_map Entry.typeReading_eq hc
  · rw [List.map_map]
    exact map_eq_map Entry.methodReading_eq hc

/-- Reading the dispatch map of a context gives the entries of its
descriptors. -/
theorem read_dispatchMap (hds : ∀ d ∈ ds, d.Accepted) (hsources : ∀ d ∈ ds, '\n' ∉ d.source)
    (hc : ofDescriptors ds = .ok c) :
    DispatchMap.read c.dispatchMap.text = some (ds.map Descriptor.dispatchReading) := by
  rw [map_eq_map Entry.dispatchReading_eq hc]
  exact DispatchMap.read_text (fun e he => (legible hds hc e he).methodName)
    (break_notMem_sources hsources hc)

end Context

namespace Descriptor

variable {ds : List Descriptor} {ms : List MethodReading} {i : Nat}

/-- Where methods are those of descriptors, every descriptor has its method
at its own place. -/
theorem exists_method_of_getElem? (h : ds.map methodReading = ms.map .ok) {d : Descriptor}
    (hd : ds[i]? = some d) : ∃ m, ms[i]? = some m ∧ d.methodReading = .ok m := by
  have hplace : (ms.map Except.ok)[i]? = some d.methodReading := by
    rw [← h, List.getElem?_map, hd]
    rfl
  rw [List.getElem?_map] at hplace
  obtain ⟨m, hm, hreading⟩ := Option.map_eq_some_iff.1 hplace
  exact ⟨m, hm, hreading.symm⟩

theorem exists_of_getElem?_methods (h : ds.map methodReading = ms.map .ok) {m : MethodReading}
    (hm : ms[i]? = some m) : ∃ d, ds[i]? = some d ∧ d.methodReading = .ok m := by
  have hplace : (ds.map methodReading)[i]? = some (.ok m) := by
    rw [h, List.getElem?_map, hm]
    rfl
  rw [List.getElem?_map] at hplace
  exact Option.map_eq_some_iff.1 hplace

/-- A method has the name that its handler's name gives. -/
theorem name_of_methodReading {d : Descriptor} {m : MethodReading}
    (h : d.methodReading = .ok m) : m.name = Naming.methodName d.name := by
  unfold methodReading at h
  cases hobject : d.parameters.expression with
  | error e =>
    rw [hobject] at h
    exact absurd h (by simp [Except.map])
  | ok object =>
    rw [hobject] at h
    obtain rfl := Except.ok.inj h
    rfl

/-- **A method that is called without parameters reads none.** -/
theorem params_not_infix {d : Descriptor} {m : MethodReading}
    (hm : d.methodReading = .ok m) (hparams : d.dispatchReading.passesParams = false) :
    ¬ ("params?." : Text) <:+: m.object := by
  have hempty : d.parameters.entries = [] := by
    have hisEmpty : d.parameters.isEmpty = true := by simpa [dispatchReading] using hparams
    exact List.isEmpty_iff.1 hisEmpty
  have hobject : m.object = "\x7b\x7d" := by
    unfold methodReading Parameters.expression CallObject.ofParameters at hm
    rw [hempty] at hm
    obtain rfl := Except.ok.inj hm
    rfl
  intro h
  have hlength := h.length_le
  rw [hobject] at hlength
  exact absurd hlength (by decide)

end Descriptor

namespace Artifact

/-- **The class file is read back.** Reading it gives the type and the
method of each descriptor, in order and nothing else, and so descriptors
with the same class file have the same types and methods. -/
theorem read_classText {ds : List Descriptor} {c : Context} (hds : ∀ d ∈ ds, d.Accepted)
    (hsources : ∀ d ∈ ds, '\n' ∉ d.source) (hc : Context.ofDescriptors ds = .ok c) :
    ∃ a r, ofData c.data = .ok a ∧ ClassFile.read a.classText = some r
      ∧ ds.map Descriptor.typeReading = r.types.map .ok
      ∧ ds.map Descriptor.methodReading = r.methods.map .ok
      ∧ ∀ ds' c' a', (∀ d ∈ ds', d.Accepted) → (∀ d ∈ ds', '\n' ∉ d.source)
        → Context.ofDescriptors ds' = .ok c' → ofData c'.data = .ok a'
        → a'.classText = a.classText
        → ds'.map Descriptor.typeReading = ds.map Descriptor.typeReading
          ∧ ds'.map Descriptor.methodReading = ds.map Descriptor.methodReading := by
  obtain ⟨r, hr, htypes, hmethods⟩ := Context.read_classFile hds hsources hc
  refine ⟨_, r, c.ofData_data, hr, htypes, hmethods, ?_⟩
  intro ds' c' a' hds' hsources' hc' ha' hsame
  obtain ⟨r', hr', htypes', hmethods'⟩ := Context.read_classFile hds' hsources' hc'
  obtain rfl := Except.ok.inj (ha'.symm.trans c'.ofData_data)
  -- the same text is read only once
  have hreadings : r' = r := Option.some.inj (hr'.symm.trans ((congrArg _ hsame).trans hr))
  rw [htypes', hmethods', htypes, hmethods, hreadings]
  exact ⟨rfl, rfl⟩

/-- Neither the end of a comment in a description nor the quotes in a
remote method are in the way of the reader. -/
theorem read_classText_hotReload :
    ∃ c a r, Context.ofDescriptors [.hotReload] = .ok c ∧ ofData c.data = .ok a
      ∧ ClassFile.read a.classText = some r
      ∧ r.types = [⟨"HotReloadParams", ["count"]⟩]
      ∧ r.methods = [⟨["Reloads.", "", "Not *\\/ the end."], "handleHotReload",
          "HotReloadParams", true, "callDartVm", "ext.\"reload\"",
          "\x7b port: port, arg: \x7b count: params?.count \x7d \x7d", true⟩] := by
  obtain ⟨c, hc⟩ : ∃ c, Context.ofDescriptors [.hotReload] = .ok c := ⟨_, rfl⟩
  have hok : ∀ {α : Type} (x y : α), (Except.ok x : Except RuleFault α) = .ok y → x = y :=
    fun _ _ => Except.ok.inj
  obtain ⟨a, r, ha, hr, htypes, hmethods, -⟩ :=
    read_classText (List.forall_mem_singleton.2 Descriptor.accepted_hotReload) (by decide) hc
  refine ⟨c, a, r, hc, ha, hr, (List.map_inj_right hok).1 (htypes.symm.trans ?_),
    (List.map_inj_right hok).1 (hmethods.symm.trans ?_)⟩
  · rfl
  · rfl

/-- **The dispatch map is read back, and it fits the class file.** Reading
it gives one entry for each descriptor, in order and nothing else. The
methods of the class file are, place by place, those that the entries
call, and a method that is called without parameters reads none. -/
theorem read_mapText {ds : List Descriptor} {c : Context} (hds : ∀ d ∈ ds, d.Accepted)
    (hsources : ∀ d ∈ ds, '\n' ∉ d.source) (hc : Context.ofDescriptors ds = .ok c) :
    ∃ a r, ofData c.data = .ok a
      ∧ DispatchMap.read a.mapText = some (ds.map Descriptor.dispatchReading)
      ∧ ClassFile.read a.classText = some r
      ∧ ds.map Descriptor.methodReading = r.methods.map .ok
      ∧ ∀ (i : Nat) (e : DispatchReading), (ds.map Descriptor.dispatchReading)[i]? = some e →
        ∃ m : MethodReading, r.methods[i]? = some m ∧ m.name = e.method
          ∧ (e.passesParams = false → ¬ ("params?." : Text) <:+: m.object) := by
  obtain ⟨r, hr, -, hmethods⟩ := Context.read_classFile hds hsources hc
  refine ⟨_, r, c.ofData_data, Context.read_dispatchMap hds hsources hc, hr, hmethods, ?_⟩
  intro i e he
  obtain ⟨d, hd, rfl⟩ : ∃ d, ds[i]? = some d ∧ d.dispatchReading = e := by
    rw [List.getElem?_map] at he
    exact Option.map_eq_some_iff.1 he
  obtain ⟨m, hm, hreading⟩ := Descriptor.exists_method_of_getElem? hmethods hd
  exact ⟨m, hm, Descriptor.name_of_methodReading hreading, Descriptor.params_not_infix hreading⟩

/-- A handler without parameters beside one that has some. -/
theorem read_mapText_hotReload :
    ∃ c a r, Context.ofDescriptors [.hotReload, .getVm] = .ok c ∧ ofData c.data = .ok a
      ∧ DispatchMap.read a.mapText = some [⟨"hot_reload", true, "handleHotReload"⟩,
          ⟨"get_vm", false, "handleGetVm"⟩]
      ∧ ClassFile.read a.classText = some r
      ∧ ∃ m : MethodReading, r.methods[1]? = some m ∧ m.name = "handleGetVm"
        ∧ ¬ ("params?." : Text) <:+: m.object := by
  obtain ⟨c, hc⟩ : ∃ c, Context.ofDescriptors [.hotReload, .getVm] = .ok c := ⟨_, rfl⟩
  have hds : ∀ d ∈ [Descriptor.hotReload, .getVm], d.Accepted :=
    List.forall_mem_cons.2
      ⟨Descriptor.accepted_hotReload, List.forall_mem_singleton.2 Descriptor.accepted_getVm⟩
  obtain ⟨a, r, ha, hmap, hr, -, hplaces⟩ := read_mapText hds (by decide) hc
  obtain ⟨m, hm, hname, hobject⟩ := hplaces 1 Descriptor.getVm.dispatchReading rfl
  refine ⟨c, a, r, hc, ha, hmap.trans ?_, hr, m, hm, hname.trans ?_, hobject rfl⟩
  · rfl
  · rfl

end Artifact

end HandlerGen
