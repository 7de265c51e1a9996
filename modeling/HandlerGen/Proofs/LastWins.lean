import HandlerGen.Proofs.MethodNames
import HandlerGen.Proofs.ReadBack
/-!
# The last definition wins

Where several descriptors have one name, the dispatch map has several
entries with one key and the class several methods with one name, and the
last of each is the one that counts. All three lists have their last
member at the same place (`IsLast`), so **the entry and the method that
count come from one descriptor, the last of its name**
(`Artifact.last_wins`), and none with another name has a part in it.

That is so of what stands in the texts of both files, provided that the
names of parameters are checked, as they are where descriptors are read,
and that no source breaks its line. A name that is not checked may hold code
and with it a whole method (`Artifact.not_lastWins_intruder`).
-/

namespace HandlerGen

/-- The place of the last member of a list with a property. -/
def IsLast {α : Type} (p : α → Prop) (as : List α) (i : Nat) : Prop :=
  (∃ a, as[i]? = some a ∧ p a) ∧ ∀ j a, i < j → as[j]? = some a → ¬ p a

/-- A list with a member that has the property has a last one. -/
theorem exists_isLast {α : Type} {p : α → Prop} {as : List α} (h : ∃ a ∈ as, p a) :
    ∃ i, IsLast p as i := by
  induction as with
  | nil =>
    obtain ⟨a, ha, -⟩ := h
    exact absurd ha List.not_mem_nil
  | cons b as ih =>
    by_cases hrest : ∃ a ∈ as, p a
    · obtain ⟨i, ha, hlast⟩ := ih hrest
      refine ⟨i + 1, ha, fun j a hj haj => ?_⟩
      obtain ⟨k, rfl⟩ : ∃ k, j = k + 1 := ⟨j - 1, by omega⟩
      exact hlast k a (by omega) haj
    · -- none of the others has it, so the first member is the last
      obtain ⟨a, ha, hp⟩ := h
      rcases List.mem_cons.1 ha with rfl | ha
      · refine ⟨0, ⟨a, rfl, hp⟩, fun j c hj hcj hc => hrest ?_⟩
        obtain ⟨k, rfl⟩ : ∃ k, j = k + 1 := ⟨j - 1, by omega⟩
        exact ⟨c, List.mem_of_getElem? hcj, hc⟩
      · exact absurd ⟨a, ha, hp⟩ hrest

/-- One descriptor settles a name: the last one that has it. The last
entry with this key and the last method that the entry calls are those of
this descriptor, and all methods of that name come from descriptors with
this name. -/
def LastWins (ds : List Descriptor) (es : List DispatchReading) (ms : List MethodReading)
    (n : Text) : Prop :=
  ∃ i d e m, ds[i]? = some d ∧ es[i]? = some e ∧ ms[i]? = some m
    ∧ IsLast (fun d => d.name = n) ds i ∧ IsLast (fun e => e.name = n) es i
    ∧ IsLast (fun m' => m'.name = e.method) ms i
    ∧ e = d.dispatchReading ∧ d.methodReading = .ok m
    ∧ ∀ (j : Nat) (d' : Descriptor) (m' : MethodReading), ds[j]? = some d' → ms[j]? = some m'
      → m'.name = e.method → d'.name = n

/-- **The last descriptor of a name settles it**, if methods tell names
apart. -/
theorem lastWins_of_methods {ds : List Descriptor} {ms : List MethodReading} {n : Text}
    (hnames : ∀ d ∈ ds, d.name.isSnakeCase = true)
    (hms : ds.map Descriptor.methodReading = ms.map .ok) (hn : n ∈ ds.map Descriptor.name) :
    LastWins ds (ds.map Descriptor.dispatchReading) ms n := by
  obtain ⟨d₀, hd₀, hname₀⟩ := List.mem_map.1 hn
  obtain ⟨i, ⟨d, hd, rfl⟩, hlast⟩ :=
    exists_isLast (p := fun d : Descriptor => d.name = n) ⟨d₀, hd₀, hname₀⟩
  obtain ⟨m, hm, hreading⟩ := Descriptor.exists_method_of_getElem? hms hd
  have hsnake : ∀ {j : Nat} {d' : Descriptor}, ds[j]? = some d' → d'.name.isSnakeCase = true :=
    fun hd' => hnames _ (List.mem_of_getElem? hd')
  -- a method with the name of this one is that of a descriptor with the same name
  have hsame : ∀ (j : Nat) (d' : Descriptor) (m' : MethodReading), ds[j]? = some d' →
      ms[j]? = some m' → m'.name = Naming.methodName d.name → d'.name = d.name := by
    intro j d' m' hd' hm' hname
    obtain ⟨m'', hm'', hreading'⟩ := Descriptor.exists_method_of_getElem? hms hd'
    obtain rfl := Option.some.inj (hm'.symm.trans hm'')
    rw [Descriptor.name_of_methodReading hreading'] at hname
    exact (Naming.methodName_inj (hsnake hd') (hsnake hd)).1 hname
  have hentry : (ds.map Descriptor.dispatchReading)[i]? = some d.dispatchReading := by
    rw [List.getElem?_map, hd]
    rfl
  refine ⟨i, d, d.dispatchReading, m, hd, hentry, hm, ⟨⟨d, hd, rfl⟩, hlast⟩,
    ⟨⟨_, hentry, rfl⟩, fun j e hj he hname => ?_⟩,
    ⟨⟨m, hm, Descriptor.name_of_methodReading hreading⟩, fun j m' hj hm' hname => ?_⟩,
    rfl, hreading, hsame⟩
  · rw [List.getElem?_map] at he
    obtain ⟨d', hd', rfl⟩ := Option.map_eq_some_iff.1 he
    exact hlast j d' hj hd' hname
  · obtain ⟨d', hd', -⟩ := Descriptor.exists_of_getElem?_methods hms hm'
    exact hlast j d' hj hd' (hsame j d' m' hd' hm' hname)

namespace Artifact

variable {ds : List Descriptor} {c : Context}

/-- **The last definition wins, and it is the same in both files.** The
text of each file is read as one entry and one method for each descriptor,
in order, and every name is settled by the last descriptor that has it. -/
theorem last_wins (hnames : ∀ d ∈ ds, d.name.isSnakeCase = true)
    (hparams : ∀ d ∈ ds, ∀ p ∈ d.parameters.entries.map Prod.fst, p.readsAsIdentifier = true)
    (hsources : ∀ d ∈ ds, '\n' ∉ d.source) (hc : Context.ofDescriptors ds = .ok c) :
    ∃ a es r, ofData c.data = .ok a
      ∧ DispatchMap.read a.mapText = some es ∧ ClassFile.read a.classText = some r
      ∧ es = ds.map Descriptor.dispatchReading
      ∧ ds.map Descriptor.methodReading = r.methods.map .ok
      ∧ ∀ n ∈ ds.map Descriptor.name, LastWins ds es r.methods n := by
  have hlegible : ∀ e ∈ c.entries, e.Legible := by
    intro e he
    obtain ⟨d, hd, hentry⟩ := Context.exists_of_mem_entries hc he
    exact Entry.legible (Text.isName_of_isSnakeCase (hnames d hd)) (hparams d hd) hentry
  have hbreaks := Context.break_notMem_sources hsources hc
  have hmethods : ds.map Descriptor.methodReading = (c.entries.map Entry.reading).map .ok := by
    rw [List.map_map]
    exact Context.map_eq_map Entry.methodReading_eq hc
  have hmap : DispatchMap.read c.dispatchMap.text = some (ds.map Descriptor.dispatchReading) := by
    rw [Context.map_eq_map Entry.dispatchReading_eq hc]
    exact DispatchMap.read_text (fun e he => (hlegible e he).methodName) hbreaks
  exact ⟨_, _, _, c.ofData_data, hmap, ClassFile.read_text hlegible hbreaks, rfl, hmethods,
    fun n hn => lastWins_of_methods hnames hmethods hn⟩

/-- The second of two definitions reads no parameters, whatever the first
one does. -/
theorem last_wins_hotReload :
    ∃ c a es r, ∃ m : MethodReading, Context.ofDescriptors
        [.hotReload, .getVm, { Descriptor.hotReload with parameters := .empty }] = .ok c
      ∧ ofData c.data = .ok a
      ∧ DispatchMap.read a.mapText = some es ∧ ClassFile.read a.classText = some r
      ∧ es = [⟨"hot_reload", true, "handleHotReload"⟩, ⟨"get_vm", false, "handleGetVm"⟩,
          ⟨"hot_reload", false, "handleHotReload"⟩]
      ∧ LastWins [.hotReload, .getVm, { Descriptor.hotReload with parameters := .empty }] es
          r.methods "hot_reload"
      ∧ r.methods[2]? = some m ∧ m.object = "\x7b\x7d" := by
  obtain ⟨c, hc⟩ : ∃ c, Context.ofDescriptors
      [.hotReload, .getVm, { Descriptor.hotReload with parameters := .empty }] = .ok c := ⟨_, rfl⟩
  obtain ⟨a, es, r, ha, hes, hr, rfl, hmethods, hlast⟩ :=
    last_wins (by decide) (by decide) (by decide) hc
  obtain ⟨m, hm, hreading⟩ := Descriptor.exists_method_of_getElem? hmethods
    (i := 2) (d := { Descriptor.hotReload with parameters := .empty }) rfl
  refine ⟨c, a, _, r, m, hc, ha, hes, hr, rfl, hlast "hot_reload" (by decide), hm, ?_⟩
  obtain rfl := Except.ok.inj (hreading.symm.trans rfl)
  rfl

end Artifact

/-- A parameter's name that is not checked: it ends the call that it stands
in and the method, and opens a second method. -/
def Descriptor.intruderName : Text :=
  "x: 1 \x7d);\n    return result;\n  \x7d\n\n  /**\n   */\n"
    ++ "  async handleGetVm(port: number, params?: GetVmParams): Promise<unknown> \x7b\n"
    ++ "    const result = await this.rpcUtils.callDartVm(\"evil\", port, \x7b y"

/-- A handler with such a parameter. -/
def Descriptor.intruder : Descriptor :=
  { Descriptor.hotReload with parameters := .ofPairs [(intruderName, "port")] }

/-- A handler whose source ends the line that names it and opens a text that
nothing closes. -/
def Descriptor.brokenSource : Descriptor := { Descriptor.getVm with source := "core.yaml\n\x60" }

/-- The class file has a third method for two descriptors. -/
theorem Context.read_intruder {c : Context} (hc : ofDescriptors [.getVm, .intruder] = .ok c) :
    ∃ r, ClassFile.read c.classFile.text = some r
      ∧ r.methods[2]? = some ⟨[], "handleGetVm", "GetVmParams", false, "callDartVm", "evil",
          "\x7b y: port \x7d", true⟩ := by
  have hread : (ofDescriptors [.getVm, .intruder]).toOption.bind (fun c =>
      (ClassFile.read c.classFile.text).bind fun r => r.methods[2]?)
      = some ⟨[], "handleGetVm", "GetVmParams", false, "callDartVm", "evil",
          "\x7b y: port \x7d", true⟩ := by decide +kernel
  rw [hc] at hread
  exact Option.bind_eq_some_iff.1 hread

theorem Context.read_brokenSource {c : Context} (hc : ofDescriptors [.brokenSource] = .ok c) :
    DispatchMap.read c.dispatchMap.text = none := by
  have hread : (ofDescriptors [.brokenSource]).toOption.map (fun c =>
      DispatchMap.read c.dispatchMap.text) = some none := by decide +kernel
  rw [hc] at hread
  exact Option.some.inj hread

namespace Artifact

/-- **A name that is not checked overrides a method**: the last method that
the entry of `get_vm` calls has been brought in by a handler with another
name. And where a source breaks its line, there is no entry to be read. -/
theorem not_lastWins_intruder :
    (∀ d ∈ [Descriptor.getVm, .intruder, .brokenSource], d.name.isSnakeCase = true)
      ∧ (∃ c a es r, ∃ m : MethodReading,
        Context.ofDescriptors [.getVm, .intruder] = .ok c ∧ ofData c.data = .ok a
        ∧ DispatchMap.read a.mapText = some es ∧ ClassFile.read a.classText = some r
        ∧ ¬ LastWins [.getVm, .intruder] es r.methods "get_vm"
        ∧ r.methods[2]? = some m ∧ m.name = "handleGetVm" ∧ m.rpcMethod = "evil")
      ∧ ∃ c a, Context.ofDescriptors [.brokenSource] = .ok c ∧ ofData c.data = .ok a
        ∧ DispatchMap.read a.mapText = none := by
  refine ⟨by decide, ?_, ?_⟩
  · obtain ⟨c, hc⟩ : ∃ c, Context.ofDescriptors [.getVm, .intruder] = .ok c := ⟨_, rfl⟩
    obtain ⟨r, hr, hm⟩ := Context.read_intruder hc
    have hmap : DispatchMap.read c.dispatchMap.text
        = some ([.getVm, .intruder].map Descriptor.dispatchReading) := by
      rw [Context.map_eq_map Entry.dispatchReading_eq hc]
      refine DispatchMap.read_text (fun e he => ?_) (Context.break_notMem_sources (by decide) hc)
      obtain ⟨d, hd, hentry⟩ := Context.exists_of_mem_entries hc he
      obtain ⟨-, -, -, hmethod, -⟩ := Entry.ofDescriptor_cases hentry
      rw [hmethod]
      have hsnake : ∀ d ∈ [Descriptor.getVm, .intruder], d.name.isSnakeCase = true := by decide
      exact Naming.isName_methodName (Text.isName_of_isSnakeCase (hsnake d hd))
    refine ⟨c, _, _, r, _, hc, c.ofData_data, hmap, hr, ?_, hm, rfl, rfl⟩
    rintro ⟨i, d, e, m, hd, he, -, ⟨⟨d', hd', hname⟩, -⟩, -, ⟨-, hlast⟩, rfl, -⟩
    -- the name is that of the first descriptor, and the third method comes after its own
    have hi : i = 0 := by
      rcases i with - | - | i
      · rfl
      · obtain rfl := Option.some.inj hd'
        exact absurd hname (by decide)
      · exact absurd hd' (by simp)
    subst hi
    obtain rfl := Option.some.inj hd
    exact hlast 2 _ (by decide) hm (by decide)
  · obtain ⟨c, hc⟩ : ∃ c, Context.ofDescriptors [.brokenSource] = .ok c := ⟨_, rfl⟩
    exact ⟨c, _, hc, c.ofData_data, Context.read_brokenSource hc⟩

end Artifact

end HandlerGen
