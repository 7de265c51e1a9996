import HandlerGen.Proofs.CheckedNames
import HandlerGen.Proofs.Duplicates
import HandlerGen.Proofs.Layout
import Mathlib.Data.List.Nodup
import Mathlib.Data.Set.Operations
/-!
# Names clash only where they are repeated

Two handlers have one method, or one type of parameters, just if they have
one name: also a name that ends in a line feed is read off its words put
together (`Naming.snakeCase_pascalCase_of_reads`). So **the names that are
told to come more than once are the only clashes** (`duplicateNames_exact`),
and a context warns of each of them with one line.
-/

namespace HandlerGen

/-- A text without the mark goes to the last piece of what it stands
behind. -/
theorem Text.exists_splitOn_append {x : Char} {u : Text} (hu : x ∉ u) (t : Text) :
    ∃ ws w, t.splitOn x = ws ++ [w] ∧ (t ++ u).splitOn x = ws ++ [w ++ u] := by
  induction t with
  | nil => exact ⟨[], [], List.splitOn_nil x, List.splitOn_eq_singleton hu⟩
  | cons c t ih =>
    obtain ⟨ws, w, ht, htu⟩ := ih
    rw [List.cons_append, List.splitOn_cons_eq_if_modifyHead, List.splitOn_cons_eq_if_modifyHead,
      ht, htu]
    by_cases hc : (c == x) = true
    · rw [if_pos hc, if_pos hc]
      exact ⟨[] :: ws, w, rfl, rfl⟩
    · rw [if_neg hc, if_neg hc]
      -- the character goes to the first piece, which may be the last one too
      cases ws with
      | nil => exact ⟨[], c :: w, rfl, rfl⟩
      | cons v vs => exact ⟨(c :: v) :: vs, w, rfl, rfl⟩

namespace Naming

variable {s t : Text}

theorem capitalised_append_break (w : Text) :
    capitalised (w ++ ['\n']) = capitalised w ++ ['\n'] := by
  cases w with
  | nil => decide +kernel
  | cons c w => exact (List.append_assoc (upperCase c) w ['\n']).symm

/-- A line feed behind a name stands behind its words put together. -/
theorem pascalCase_append_break (t : Text) :
    pascalCase (t ++ ['\n']) = pascalCase t ++ ['\n'] := by
  obtain ⟨ws, w, ht, hbreak⟩ := Text.exists_splitOn_append (x := '_') (u := ['\n']) (by decide) t
  rw [pascalCase, pascalCase, ht, hbreak, List.flatMap_append, List.flatMap_append,
    List.append_assoc, List.flatMap_singleton, List.flatMap_singleton, capitalised_append_break]

/-- **A checked name is read off its words put together.** -/
theorem snakeCase_pascalCase_of_reads (h : t.readsAsSnakeCase = true) :
    snakeCase (pascalCase t) = t := by
  rcases Text.readsAsSnakeCase_iff.1 h with ht | ⟨n, hn, rfl⟩
  · exact snakeCase_pascalCase (Pattern.mem_snakeCase_iff.1 ht)
  · have hbreak : wordStart '\n' = ['\n'] := by decide
    rw [pascalCase_append_break, snakeCase, List.flatMap_append,
      flatMap_wordStart_pascalCase (Pattern.mem_snakeCase_iff.1 hn), List.flatMap_singleton, hbreak]
    rfl

theorem injOn_pascalCase : Set.InjOn pascalCase {t | t.readsAsSnakeCase = true} := by
  intro s hs t ht h
  rw [← snakeCase_pascalCase_of_reads hs, h, snakeCase_pascalCase_of_reads ht]

/-- **Different checked names have different methods.** -/
theorem injOn_methodName : Set.InjOn methodName {t | t.readsAsSnakeCase = true} :=
  fun _ hs _ ht h => injOn_pascalCase hs ht (List.append_cancel_left h)

/-- **And different types of parameters.** -/
theorem injOn_paramsTypeName : Set.InjOn paramsTypeName {t | t.readsAsSnakeCase = true} :=
  fun _ hs _ ht h => injOn_pascalCase hs ht (List.append_cancel_right h)

end Naming

/-- No name is told just if all names are different. -/
theorem duplicateNames_eq_nil_iff (ds : List Descriptor) :
    duplicateNames ds = [] ↔ (ds.map Descriptor.name).Nodup := by
  rw [List.eq_nil_iff_forall_not_mem, List.nodup_iff_count_le_one]
  refine forall_congr' fun n => ?_
  rw [(areRepeated_duplicateNames ds).mem_iff, Nat.not_le, Nat.lt_succ_iff]

/-- Names that are made of different checked names are different, so that
none is told just if no two of them are the same. -/
theorem duplicateNames_eq_nil_iff_nodup_map {f : Text → Text} {ds : List Descriptor}
    (hf : Set.InjOn f {t | t.readsAsSnakeCase = true})
    (hds : ∀ d ∈ ds, d.name.readsAsSnakeCase = true) :
    duplicateNames ds = [] ↔ (ds.map fun d => f d.name).Nodup := by
  have hmap : (ds.map fun d => f d.name) = (ds.map Descriptor.name).map f :=
    (List.map_map).symm
  rw [duplicateNames_eq_nil_iff, hmap]
  refine ⟨fun h => ?_, List.Nodup.of_map f⟩
  refine h.map_on fun m hm n hn heq => hf ?_ ?_ heq
  · obtain ⟨d, hd, rfl⟩ := List.mem_map.1 hm
    exact hds d hd
  · obtain ⟨d, hd, rfl⟩ := List.mem_map.1 hn
    exact hds d hd

namespace Context

/-- The data of a context tell how many entries there are. -/
theorem lookup_handlerCount (c : Context) :
    c.data.lookup ("handler_count" : Text) = some (.int c.entries.length) := rfl

end Context

/-- **The names that are told are those that come more than once**, each
at its first place, and they are the only ones that clash: if none is
told, no two handlers have one method or one type of parameters. A context
has the entries of its descriptors in order, counts them, and warns of each
name that is told with one line. -/
theorem duplicateNames_exact (ds : List Descriptor) :
    AreRepeated (ds.map Descriptor.name) (duplicateNames ds)
    ∧ (duplicateNames ds).Nodup
    ∧ ((∀ d ∈ ds, ∃ e : Descriptor, e.Accepted ∧ e.name = d.name) →
        (duplicateNames ds = [] ↔ (ds.map fun d => Naming.methodName d.name).Nodup)
          ∧ (duplicateNames ds = [] ↔ (ds.map fun d => Naming.paramsTypeName d.name).Nodup))
    ∧ ∀ c, Context.ofDescriptors ds = .ok c →
        ds.map Entry.ofDescriptor = c.entries.map .ok
          ∧ c.data.lookup ("handler_count" : Text) = some (.int ds.length)
          ∧ c.warnings = Text.ofLines ((duplicateNames ds).map Context.warningLine) := by
  refine ⟨areRepeated_duplicateNames ds, (nodup_distinct _).filter _, fun hnames => ?_,
    fun c hc => ?_⟩
  · have hds : ∀ d ∈ ds, d.name.readsAsSnakeCase = true := by
      intro d hd
      obtain ⟨e, he, hname⟩ := hnames d hd
      exact hname ▸ he.readsAsSnakeCase
    exact ⟨duplicateNames_eq_nil_iff_nodup_map Naming.injOn_methodName hds,
      duplicateNames_eq_nil_iff_nodup_map Naming.injOn_paramsTypeName hds⟩
  · obtain ⟨hentries, hduplicates, -⟩ := Context.ofDescriptors_cases hc
    have hlength : ds.length = c.entries.length := by
      simpa only [List.length_map] using congrArg List.length hentries
    exact ⟨hentries, by rw [c.lookup_handlerCount, hlength], by rw [c.warnings_eq, hduplicates]⟩

/-- A name twice with another one between: it is told once, its method and
its type come twice, and the context has three entries and one warning. -/
theorem duplicateNames_exact_hotReload :
    (∀ d ∈ [Descriptor.hotReload, .getVm, .hotReload], ∃ e : Descriptor,
        e.Accepted ∧ e.name = d.name)
      ∧ duplicateNames [.hotReload, .getVm, .hotReload] = [("hot_reload" : Text)]
      ∧ ¬ [("handleHotReload" : Text), "handleGetVm", "handleHotReload"].Nodup
      ∧ ¬ [("HotReloadParams" : Text), "GetVmParams", "HotReloadParams"].Nodup
      ∧ ∃ c, Context.ofDescriptors [.hotReload, .getVm, .hotReload] = .ok c
        ∧ c.data.lookup ("handler_count" : Text) = some (.int 3)
        ∧ c.warnings = Text.ofLines [Context.warningLine "hot_reload"] := by
  have haccepted : ∀ d ∈ [Descriptor.hotReload, .getVm, .hotReload], ∃ e : Descriptor,
      e.Accepted ∧ e.name = d.name := by
    have hall : ∀ d ∈ [Descriptor.hotReload, .getVm, .hotReload], d.Accepted :=
      List.forall_mem_cons.2 ⟨Descriptor.accepted_hotReload, List.forall_mem_cons.2
        ⟨Descriptor.accepted_getVm, List.forall_mem_singleton.2 Descriptor.accepted_hotReload⟩⟩
    exact fun d hd => ⟨d, hall d hd, rfl⟩
  have htold : duplicateNames [.hotReload, .getVm, .hotReload] = [("hot_reload" : Text)] := by
    decide
  obtain ⟨c, hc⟩ : ∃ c, Context.ofDescriptors [.hotReload, .getVm, .hotReload] = .ok c := ⟨_, rfl⟩
  obtain ⟨-, -, hclash, hcontext⟩ := duplicateNames_exact [.hotReload, .getVm, .hotReload]
  obtain ⟨hmethods, htypes⟩ := hclash haccepted
  obtain ⟨-, hcount, hwarnings⟩ := hcontext c hc
  have hne : duplicateNames [.hotReload, .getVm, .hotReload] ≠ [] := by
    rw [htold]
    exact List.cons_ne_nil _ _
  refine ⟨haccepted, htold, fun h => hne (hmethods.2 h), fun h => hne (htypes.2 h), c, hc, hcount,
    ?_⟩
  rw [hwarnings, htold, List.map_singleton]

end HandlerGen
