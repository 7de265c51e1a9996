import HandlerGen.Proofs.NameCharacters
import Mathlib.Data.List.Forall2
/-!
# The form of doc comments

The lines of a doc comment are a normal form of the description: no line
could close the comment, be broken, or end in white space, the last line
is not empty, and laying the lines out again gives the same lines. They
are the lines of the description in order, each less the white space at
its end and with a backslash in each pair that closes a comment, and only
blank lines at the end are missing
(**`DocComment.lines_normalForm`**).

Escaping, cutting and trimming are done one after another, and each could
bring back what an earlier step took out. They commute: escaping keeps the
line feeds and the white space where they are (`DocComment.lines_escape`,
`DocComment.trimEnd_escape`), so a line of the comment is what becomes of
one line of the description.
-/

namespace HandlerGen

namespace Text

/-! ## White space at the end -/

/-- The last character of a text, if there is one, shows. -/
def EndsVisibly (t : Text) : Prop := ∀ c ∈ t.getLast?, HandlerGen.isBlank c = false

theorem isBlank_iff {t : Text} : t.isBlank = true ↔ ∀ c ∈ t, HandlerGen.isBlank c = true :=
  List.all_eq_true

/-- Nothing is left of a text exactly if nothing in it shows. -/
theorem trimEnd_eq_nil_iff {t : Text} : trimEnd t = [] ↔ t.isBlank = true := by
  rw [trimEnd_eq_rdropWhile, List.rdropWhile_eq_nil_iff, isBlank_iff]

/-- A text that ends visibly is one that trimming leaves as it is. -/
theorem trimEnd_eq_self_iff {t : Text} : trimEnd t = t ↔ EndsVisibly t := by
  rw [trimEnd_eq_rdropWhile, List.rdropWhile_eq_self_iff]
  constructor
  · intro h c hc
    obtain ⟨hne, rfl⟩ := List.mem_getLast?_eq_getLast hc
    exact Bool.eq_false_iff.2 (h hne)
  · intro h hne
    exact Bool.eq_false_iff.1 (h _ (List.getLast?_eq_some_getLast hne))

/-- What is left of a trimmed text ends visibly. -/
theorem endsVisibly_trimEnd (t : Text) : EndsVisibly (trimEnd t) := by
  rw [← trimEnd_eq_self_iff, trimEnd_eq_rdropWhile, trimEnd_eq_rdropWhile,
    List.rdropWhile_idempotent]

/-- Only white space is trimmed. -/
theorem exists_eq_trimEnd_append (t : Text) :
    ∃ blank : Text, blank.isBlank = true ∧ t = trimEnd t ++ blank := by
  refine ⟨t.rtakeWhile HandlerGen.isBlank, isBlank_iff.2 fun c hc => List.mem_rtakeWhile_imp hc, ?_⟩
  rw [trimEnd_eq_rdropWhile, List.rdropWhile_append_rtakeWhile]

/-- White space at the end is trimmed. -/
theorem trimEnd_concat_of_isBlank {c : Char} (hc : HandlerGen.isBlank c = true) (t : Text) :
    trimEnd (t ++ [c]) = trimEnd t := by
  rw [trimEnd_eq_rdropWhile, trimEnd_eq_rdropWhile, List.rdropWhile_concat_pos _ _ _ hc]

/-! ## The lines of a description -/

/-- Unifying the line ends keeps what shows. -/
theorem isBlank_unifyBreaks (t : Text) : (unifyBreaks t).isBlank = t.isBlank := by
  have hreturn : HandlerGen.isBlank '\r' = HandlerGen.isBlank '\n' := by decide
  have hfeed : HandlerGen.isBlank '\n' = true := by decide
  fun_induction unifyBreaks t with
  | case1 => rfl
  | case2 t ih =>
    simp only [isBlank, List.all_cons] at ih ⊢
    rw [ih, hreturn, hfeed, Bool.true_and, Bool.true_and]
  | case3 c t _ ih =>
    simp only [isBlank, List.all_cons] at ih ⊢
    rw [ih]
    split
    · next hc => rw [hc, hreturn]
    · rfl

/-- Nothing shows in a text exactly if nothing shows in any of its
lines. -/
theorem isBlank_iff_lines {t : Text} : t.isBlank = true ↔ ∀ l ∈ lines t, l.isBlank = true := by
  simp only [isBlank_iff]
  constructor
  · exact fun h l hl c hc => h c ((infix_of_mem_splitOn hl).subset hc)
  · intro h c hc
    rcases mem_splitOn_of_mem (x := '\n') hc with rfl | ⟨l, hl, hc⟩
    · decide
    · exact h l hl c hc

end Text

namespace DocComment

open Text (EndsVisibly trimEnd unifyBreaks)

variable {d l s t : Text}

/-! ## Escaping -/

/-- The pair stands at the start of a text exactly if both of its
characters do. -/
theorem closing_prefix_iff {c : Char} :
    closing <+: c :: t ↔ ∃ u, c = '*' ∧ t = '/' :: u := by
  constructor
  · rintro ⟨u, hu⟩
    obtain ⟨hc, ht⟩ := List.cons.inj hu
    exact ⟨u, hc.symm, ht.symm⟩
  · rintro ⟨u, rfl, rfl⟩
    exact ⟨u, rfl⟩

/-- A character that opens no pair is left as it is. -/
theorem escape_cons {c : Char} (h : ¬ closing <+: c :: t) : escape (c :: t) = c :: escape t := by
  rw [escape]
  exact fun u hc ht => h (closing_prefix_iff.2 ⟨u, hc, ht⟩)

/-- A text that closes no comment is left as it is. -/
theorem escape_of_not_infix (h : ¬ closing <:+: t) : escape t = t := by
  induction t with
  | nil => rfl
  | cons c t ih =>
    rw [List.infix_cons_iff, not_or] at h
    rw [escape_cons h.1, ih h.2]

/-- Escaping keeps the last character. -/
theorem getLast?_escape (t : Text) : (escape t).getLast? = t.getLast? := by
  fun_induction escape t with
  | case1 => rfl
  | case2 t ih => simp [List.getLast?_cons, ih]
  | case3 c t _ ih => rw [List.getLast?_cons, List.getLast?_cons, ih]

theorem escape_eq_nil_iff : escape t = [] ↔ t = [] := by
  rw [← List.getLast?_eq_none_iff, getLast?_escape, List.getLast?_eq_none_iff]

/-- Escaping adds backslashes only. -/
theorem mem_of_mem_escape {c : Char} (h : c ∈ escape t) : c ∈ t ∨ c = '\\' := by
  fun_induction escape t with
  | case1 => exact .inl h
  | case2 t ih =>
    simp only [List.mem_cons] at h ⊢
    tauto
  | case3 d t _ ih =>
    simp only [List.mem_cons] at h ⊢
    tauto

/-- A text and another behind it may be escaped apart, unless the other
one could close a pair. -/
theorem escape_append (hs : s.head? ≠ some '/') (t : Text) :
    escape (t ++ s) = escape t ++ escape s := by
  fun_induction escape t with
  | case1 => rfl
  | case2 t ih =>
    rw [List.cons_append, List.cons_append, escape, ih]
    rfl
  | case3 c t hpair ih =>
    have hopens : ¬ closing <+: c :: (t ++ s) := fun h => by
      obtain ⟨u, hc, hu⟩ := closing_prefix_iff.1 h
      cases t with
      | nil => exact hs (List.head?_eq_some_iff.2 ⟨u, hu⟩)
      | cons d t => exact hpair t hc (by rw [(List.cons.inj hu).1])
    rw [List.cons_append, escape_cons hopens, ih, List.cons_append]

/-- **Escaping leaves the white space at the end to be trimmed.** -/
theorem trimEnd_escape (t : Text) : trimEnd (escape t) = escape (trimEnd t) := by
  induction t using List.reverseRecOn with
  | nil => rfl
  | append_singleton t c ih =>
    by_cases hc : HandlerGen.isBlank c = true
    · have hslash : [c].head? ≠ some '/' := fun h => by
        rw [Option.some.inj h] at hc
        exact absurd hc (by decide)
      have hone : escape [c] = [c] :=
        escape_cons fun h => by simpa [closing] using h.length_le
      rw [escape_append hslash, hone, Text.trimEnd_concat_of_isBlank hc,
        Text.trimEnd_concat_of_isBlank hc, ih]
    · have hvisible : EndsVisibly (t ++ [c]) := fun d hd => by
        rw [List.getLast?_concat, Option.mem_some_iff] at hd
        rwa [← hd, ← Bool.not_eq_true]
      have hescaped : EndsVisibly (escape (t ++ [c])) := by
        rwa [EndsVisibly, getLast?_escape]
      rw [Text.trimEnd_eq_self_iff.2 hvisible, Text.trimEnd_eq_self_iff.2 hescaped]

/-- **Escaping leaves the lines to be cut**: no pair goes on over the end
of a line. -/
theorem lines_escape (t : Text) : Text.lines (escape t) = (Text.lines t).map escape := by
  simp only [Text.lines]
  fun_induction escape t with
  | case1 => rfl
  | case2 t ih =>
    obtain ⟨l, ls, hls⟩ := List.exists_cons_of_ne_nil (List.splitOn_ne_nil '\n' t)
    rw [hls] at ih
    simp only [List.splitOn_cons_eq_if_modifyHead, hls, ih]
    rfl
  | case3 c t hpair ih =>
    obtain ⟨l, ls, hls⟩ := List.exists_cons_of_ne_nil (List.splitOn_ne_nil '\n' t)
    have hstart : c :: l <+: c :: t :=
      List.cons_prefix_cons.2 ⟨rfl, (Text.pieces_of_splitOn hls).1⟩
    have hopens : ¬ closing <+: c :: l := fun h => by
      obtain ⟨u, hc, ht⟩ := closing_prefix_iff.1 (h.trans hstart)
      exact hpair u hc ht
    rw [List.splitOn_cons_eq_if_modifyHead, List.splitOn_cons_eq_if_modifyHead, ih, hls]
    split
    · rfl
    · rw [List.map_cons, List.modifyHead_cons, List.modifyHead_cons, List.map_cons,
        escape_cons hopens]

/-- **Text `s` is text `t` with a backslash in each pair that closes a
comment**: both are made of the same pieces, none of which holds the pair,
and `t` has the pair between any two where `s` has it with the
backslash. -/
def WrittenAs (t s : Text) : Prop :=
  ∃ pieces : List Text, (∀ p ∈ pieces, ¬ closing <:+: p) ∧
    t = closing.intercalate pieces ∧ s = ['*', '\\', '/'].intercalate pieces

/-- **Escaping puts a backslash in each pair that closes a comment**, and
does nothing else. -/
theorem writtenAs_escape (t : Text) : WrittenAs t (escape t) := by
  suffices h : ∃ (p : Text) (ps : List Text), (∀ q ∈ p :: ps, ¬ closing <:+: q) ∧
      t = closing.intercalate (p :: ps) ∧ escape t = ['*', '\\', '/'].intercalate (p :: ps) by
    obtain ⟨p, ps, h⟩ := h
    exact ⟨p :: ps, h⟩
  have hnil : ¬ closing <:+: [] := fun h => absurd (List.infix_nil.1 h) (List.cons_ne_nil _ _)
  fun_induction escape t with
  | case1 => exact ⟨[], [], by simpa using hnil, rfl, rfl⟩
  | case2 t ih =>
    obtain ⟨p, ps, hpieces, ht, hescape⟩ := ih
    refine ⟨[], p :: ps, ?_, ?_, ?_⟩
    · rintro q (_ | ⟨_, hq⟩)
      · exact hnil
      · exact hpieces q hq
    · rw [List.intercalate_cons_cons, ← ht]
      rfl
    · rw [List.intercalate_cons_cons, ← hescape]
      rfl
  | case3 c t hpair ih =>
    obtain ⟨p, ps, hpieces, ht, hescape⟩ := ih
    rw [Text.intercalate_cons] at ht
    rw [Text.intercalate_cons] at hescape
    -- the first piece opens no pair, since the text does not
    have hopens : ¬ closing <+: c :: p := fun h => by
      obtain ⟨u, hc, rfl⟩ := closing_prefix_iff.1 h
      exact hpair _ hc ht
    refine ⟨c :: p, ps, ?_, ?_, ?_⟩
    · rw [List.forall_mem_cons] at hpieces ⊢
      exact ⟨fun h => (List.infix_cons_iff.1 h).elim hopens hpieces.1, hpieces.2⟩
    · rw [Text.intercalate_cons, List.cons_append, ← ht]
    · rw [Text.intercalate_cons, List.cons_append, ← hescape]

/-- So this is the only text that is written in this way. -/
theorem writtenAs_iff : WrittenAs t s ↔ s = escape t := by
  refine ⟨?_, fun h => h ▸ writtenAs_escape t⟩
  rintro ⟨pieces, hpieces, rfl, rfl⟩
  cases pieces with
  | nil => rfl
  | cons p ps =>
    induction ps generalizing p with
    | nil =>
      rw [List.intercalate_singleton, List.intercalate_singleton,
        escape_of_not_infix (hpieces p List.mem_cons_self)]
    | cons q qs ih =>
      obtain ⟨hp, hqs⟩ := List.forall_mem_cons.1 hpieces
      have hstart : (closing ++ closing.intercalate (q :: qs)).head? ≠ some '/' := by
        simp [closing]
      have hpair : escape (closing ++ closing.intercalate (q :: qs))
          = ['*', '\\', '/'] ++ escape (closing.intercalate (q :: qs)) := rfl
      rw [List.intercalate_cons_cons, List.intercalate_cons_cons, List.append_assoc p closing,
        escape_append hstart, escape_of_not_infix hp, hpair, ← ih q hqs, List.append_assoc]

/-! ## Lines -/

/-- **What becomes of each line**: it is trimmed, and its pairs get their
backslashes. -/
theorem lines_eq (d : Text) :
    lines d = ((Text.lines d.unifyBreaks).map fun l => escape (trimEnd l)).rdropWhile
      List.isEmpty := by
  rw [lines, dropLastEmpty_eq_rdropWhile, lines_escape, List.map_map]
  congr 2
  funext l
  exact trimEnd_escape l

/-- A text that may stand on a line of a comment: it does not close the
comment or break the line, and no white space is at its end. -/
structure IsLine (l : Text) : Prop where
  notClosing : ¬ closing <:+: l
  feed_notMem : '\n' ∉ l
  return_notMem : '\r' ∉ l
  endsVisibly : EndsVisibly l

theorem isLine_of_mem_lines (h : l ∈ lines d) : IsLine l := by
  have hmem := h
  rw [lines_eq] at hmem
  obtain ⟨line, hline, rfl⟩ := List.mem_map.1 ((List.rdropWhile_prefix _ _).subset hmem)
  refine ⟨closing_not_infix_of_mem_lines h, break_notMem_of_mem_lines h, fun hreturn => ?_, ?_⟩
  · have hline_return : '\r' ∈ line :=
      (Text.trimEnd_prefix line).subset ((mem_of_mem_escape hreturn).resolve_right (by decide))
    exact Text.return_notMem_unifyBreaks d ((Text.infix_of_mem_splitOn hline).subset hline_return)
  · rw [← trimEnd_escape]
    exact Text.endsVisibly_trimEnd (escape line)

/-- The last line is not empty. -/
theorem ne_nil_of_getLast?_lines (h : l ∈ (lines d).getLast?) : l ≠ [] := by
  obtain ⟨hne, rfl⟩ := List.mem_getLast?_eq_getLast h
  have hlast : ¬ ((lines d).getLast hne).isEmpty = true := by
    simp only [lines_eq] at hne ⊢
    exact List.rdropWhile_last_not _ _ hne
  rwa [List.isEmpty_iff] at hlast

/-- **There are no lines exactly if nothing shows in the description.** -/
theorem lines_eq_nil_iff : lines d = [] ↔ d.isBlank = true := by
  rw [lines_eq, List.rdropWhile_eq_nil_iff, List.forall_mem_map, ← Text.isBlank_unifyBreaks,
    Text.isBlank_iff_lines]
  simp only [List.isEmpty_iff, escape_eq_nil_iff, Text.trimEnd_eq_nil_iff]

/-- Lines that a comment may have are laid out as they are, if the last
is not empty. -/
theorem lines_intercalate {ls : List Text} (hls : ∀ l ∈ ls, IsLine l)
    (hlast : ∀ l ∈ ls.getLast?, l ≠ []) : lines (['\n'].intercalate ls) = ls := by
  have hreturn : '\r' ∉ ['\n'].intercalate ls := fun h => by
    rcases Text.mem_of_mem_intercalate h with h | ⟨l, hl, h⟩
    · exact absurd h (by decide)
    · exact (hls l hl).return_notMem h
  rw [lines_eq, Text.unifyBreaks_of_notMem hreturn, Text.lines]
  cases ls with
  | nil => rfl
  | cons l ls =>
    rw [List.splitOn_intercalate '\n' (fun m hm => (hls m hm).feed_notMem) (List.cons_ne_nil l ls)]
    have hsame : ∀ m ∈ l :: ls, escape (trimEnd m) = m := fun m hm => by
      rw [Text.trimEnd_eq_self_iff.2 (hls m hm).endsVisibly,
        escape_of_not_infix (hls m hm).notClosing]
    rw [List.map_congr_left hsame, List.map_id', List.rdropWhile_eq_self_iff]
    intro hne hempty
    exact hlast _ (List.getLast?_eq_some_getLast hne) (List.isEmpty_iff.1 hempty)

/-- **Each line comes from one line of the description**, and only blank
lines at the end are missing. -/
theorem exists_kept_dropped (d : Text) : ∃ kept dropped : List Text,
    Text.lines d.unifyBreaks = kept ++ dropped ∧ (∀ line ∈ dropped, line.isBlank = true) ∧
      lines d = kept.map fun line => escape (trimEnd line) := by
  let isDropped : Text → Bool := fun line => (escape (trimEnd line)).isEmpty
  refine ⟨(Text.lines d.unifyBreaks).rdropWhile isDropped,
    (Text.lines d.unifyBreaks).rtakeWhile isDropped,
    List.rdropWhile_append_rtakeWhile.symm, fun line hline => ?_, ?_⟩
  · have hempty : isDropped line = true := List.mem_rtakeWhile_imp hline
    rwa [List.isEmpty_iff, escape_eq_nil_iff, Text.trimEnd_eq_nil_iff] at hempty
  · rw [lines_eq, List.rdropWhile, List.rdropWhile, ← List.map_reverse, List.dropWhile_map,
      ← List.map_reverse]
    rfl

/-- **The lines of a doc comment are a normal form of the description.** -/
theorem lines_normalForm (d : Text) :
    (∀ l ∈ lines d, IsLine l) ∧
    (∀ l ∈ (lines d).getLast?, l ≠ []) ∧
    (lines d = [] ↔ d.isBlank = true) ∧
    lines d.unifyBreaks = lines d ∧
    lines (['\n'].intercalate (lines d)) = lines d ∧
    ∃ kept dropped : List Text, Text.lines d.unifyBreaks = kept ++ dropped ∧
      (∀ line ∈ dropped, line.isBlank = true) ∧
      List.Forall₂ (fun line l => ∃ text blank : Text, line = text ++ blank ∧
        blank.isBlank = true ∧ WrittenAs text l) kept (lines d) := by
  refine ⟨fun l hl => isLine_of_mem_lines hl, fun l hl => ne_nil_of_getLast?_lines hl,
    lines_eq_nil_iff, ?_, ?_, ?_⟩
  · rw [lines, lines, Text.unifyBreaks_unifyBreaks]
  · exact lines_intercalate (fun l hl => isLine_of_mem_lines hl)
      fun l hl => ne_nil_of_getLast?_lines hl
  · obtain ⟨kept, dropped, hlines, hdropped, heq⟩ := exists_kept_dropped d
    refine ⟨kept, dropped, hlines, hdropped, ?_⟩
    rw [heq, List.forall₂_map_right_iff, List.forall₂_same]
    intro line _
    obtain ⟨blank, hblank, hline⟩ := Text.exists_eq_trimEnd_append line
    exact ⟨trimEnd line, blank, hline, hblank, writtenAs_iff.2 rfl⟩

example : lines ['*', '*', '/', '/', ' ', '\r', '\n', '\r', '*', ' ', '/', '\r', ' '] =
    [['*', '*', '\\', '/', '/'], [], ['*', ' ', '/']] := by
  decide

end DocComment

end HandlerGen
