import HandlerGen.Text
/-!
# Readers of laid-out text

A reader takes a value off the front of a text, or refuses the text. The
readers of the generated files are put together from the few here, line
by line: a given text (`Reader.expect`), what stands before a given text
(`Reader.before`), one of two texts (`Reader.either`), a text that may be
there (`Reader.optional`) and as many values as there are
(`Reader.many`).

`Takes r s a` says that `r` takes just `s` off the front and reads it as
`a`, whatever follows. It goes through a sequence of readers piece by
piece (`Takes.bind`). The readers that decide by what follows them have
their laws with the next piece in it (`Takes.optional_bind`,
`Takes.many_bind`).
-/

namespace HandlerGen

/-- A reader takes a value off the front of a text and leaves the rest,
or refuses the text. -/
abbrev Reader := StateT Text Option

namespace Reader

variable {α β : Type}

/-- Takes a given text. -/
def expect (s : Text) : Reader Unit := fun t =>
  if s.isPrefixOf t then some ((), t.drop s.length) else none

/-- Takes a given line with its end. -/
def line (s : Text) : Reader Unit := expect (s ++ ['\n'])

/-- Takes a text up to the first place where a given text stands, and
that text too. -/
def before (stop : Text) : Reader Text
  | [] => none
  | c :: t =>
    if stop.isPrefixOf (c :: t) then some ([], (c :: t).drop stop.length)
    else (before stop t).map fun r => (c :: r.1, r.2)

/-- Takes the first of two texts, which is read as true, or else the
second. -/
def either (s s' : Text) : Reader Bool := fun t =>
  if s.isPrefixOf t then some (true, t.drop s.length)
  else if s'.isPrefixOf t then some (false, t.drop s'.length)
  else none

/-- Takes a text if it is there. -/
def optional (s : Text) : Reader Bool := fun t =>
  if s.isPrefixOf t then some (true, t.drop s.length) else some (false, t)

/-- Takes as many values as there are, and no more than a given
number. -/
def upTo (r : Reader α) : Nat → Reader (List α)
  | 0, t => some ([], t)
  | n + 1, t =>
    match r t with
    | none => some ([], t)
    | some (a, t) => (upTo r n t).map fun q => (a :: q.1, q.2)

/-- Takes as many values as there are. A text has no more values in it
than characters. -/
def many (r : Reader α) : Reader (List α) := fun t => upTo r t.length t

/-- Reads a whole text. -/
def whole (r : Reader α) (t : Text) : Option α :=
  match r t with
  | some (a, []) => some a
  | _ => none

end Reader

/-- Whether two texts differ at a place that both of them have. -/
def Text.parts : Text → Text → Bool
  | a :: s, b :: t => if a = b then parts s t else true
  | _, _ => false

/-- Texts that part are no prefixes of one another, whatever follows. -/
theorem Text.isPrefixOf_of_parts {s t : Text} (h : s.parts t = true) (rest : Text) :
    s.isPrefixOf (t ++ rest) = false := by
  fun_induction Text.parts s t with
  | case1 a s t ih =>
    rw [List.cons_append, List.isPrefixOf_cons_cons, ih h, Bool.and_false]
  | case2 a s b t hab =>
    rw [List.cons_append, List.isPrefixOf_cons_cons, beq_eq_false_iff_ne.2 hab, Bool.false_and]
  | case3 => exact absurd h Bool.false_ne_true

/-- Texts that part do so whatever follows them. -/
theorem Text.parts_append {s t : Text} (h : s.parts t = true) (u v : Text) :
    Text.parts (s ++ u) (t ++ v) = true := by
  fun_induction Text.parts s t with
  | case1 a s t ih =>
    rw [List.cons_append, List.cons_append, Text.parts, if_pos rfl, ih h]
  | case2 a s b t hab => rw [List.cons_append, List.cons_append, Text.parts, if_neg hab]
  | case3 => exact absurd h Bool.false_ne_true

/-- Texts that part may be spelt as literals. -/
theorem Text.parts_ofList {s t : Text} (h : s.parts t = true) :
    Text.parts (String.ofList s) (String.ofList t) = true := by
  rwa [String.toList_ofList, String.toList_ofList]

/-- A literal may be spelt in two parts. -/
theorem Text.ofList_append {s t u : Text} (h : u = s ++ t) :
    (String.ofList u).toList = (String.ofList s).toList ++ (String.ofList t).toList := by
  rw [h, String.toList_ofList, String.toList_ofList, String.toList_ofList]

/-- A literal starts with its first character. -/
theorem Text.head?_ofList {c : Char} {s : Text} (h : s.head? = some c) :
    (String.ofList s).toList.head? = some c := by
  rwa [String.toList_ofList]

theorem Text.head?_ofList_append {c : Char} {s : Text} (h : s.head? = some c) (t : Text) :
    ((String.ofList s).toList ++ t).head? = some c := by
  rw [List.head?_append, Text.head?_ofList h]
  rfl

namespace Reader

variable {α β : Type}

/-- A given text is not taken off a text that parts from it. -/
theorem expect_eq_none {s t : Text} (h : s.parts t = true) (rest : Text) :
    expect s (t ++ rest) = none := by
  rw [expect, Text.isPrefixOf_of_parts h, if_neg Bool.false_ne_true]

/-- Neither of two texts is taken off a text that parts from both. -/
theorem either_eq_none {s s' t : Text} (h : s.parts t = true) (h' : s'.parts t = true)
    (rest : Text) : either s s' (t ++ rest) = none := by
  rw [either, Text.isPrefixOf_of_parts h, Text.isPrefixOf_of_parts h', if_neg Bool.false_ne_true,
    if_neg Bool.false_ne_true]

/-- Where the first of two readers refuses, both do. -/
theorem bind_eq_none {r : Reader α} {f : α → Reader β} {t : Text} (h : r t = none) :
    (r >>= f) t = none := by
  change (r t).bind _ = _
  rw [h, Option.bind_none]

end Reader

/-- A reader takes a text for a value if it takes just this text off the
front of any text that starts with it. -/
def Takes {α : Type} (r : Reader α) (s : Text) (a : α) : Prop :=
  ∀ rest : Text, r (s ++ rest) = some (a, rest)

namespace Takes

variable {α β γ : Type} {r : Reader α} {f : α → Reader β} {s s' t : Text} {a : α} {b : β}

theorem cast (h : s = t) (ht : Takes r s a) : Takes r t a := h ▸ ht

theorem pure : Takes (Pure.pure a : Reader α) [] a := fun _ => rfl

/-- **Readers one after the other take texts one after the other.** -/
theorem bind (h : Takes r s a) (h' : Takes (f a) s' b) : Takes (r >>= f) (s ++ s') b := by
  intro rest
  have hstep : (r >>= f) (s ++ (s' ++ rest)) = f a (s' ++ rest) := by
    change (r (s ++ (s' ++ rest))).bind _ = _
    rw [h, Option.bind_some]
  rw [List.append_assoc, hstep, h']

/-- Where the second of two readers refuses what the first leaves, both
do. -/
theorem bind_eq_none (h : Takes r s a) (h' : f a t = none) : (r >>= f) (s ++ t) = none := by
  change (r (s ++ t)).bind _ = _
  rw [h, Option.bind_some]
  exact h'

theorem expect (s : Text) : Takes (Reader.expect s) s () := by
  intro rest
  have hstart : s.isPrefixOf (s ++ rest) = true :=
    List.isPrefixOf_iff_prefix.2 (List.prefix_append s rest)
  rw [Reader.expect, if_pos hstart, List.drop_left]

theorem line (s : Text) : Takes (Reader.line s) (s ++ ['\n']) () := expect _

/-- What stands before a text is taken with it, if it does not hold the
character that the text starts with. -/
theorem before {stop : Text} {c : Char} (hstop : stop.head? = some c) (h : c ∉ s) :
    Takes (Reader.before stop) (s ++ stop) s := by
  obtain ⟨u, rfl⟩ := List.head?_eq_some_iff.1 hstop
  intro rest
  induction s with
  | nil =>
    have hstart : (c :: u).isPrefixOf (c :: (u ++ rest)) = true :=
      List.isPrefixOf_iff_prefix.2 (List.prefix_append (c :: u) rest)
    change Reader.before (c :: u) (c :: (u ++ rest)) = _
    rw [Reader.before, if_pos hstart, List.length_cons, List.drop_succ_cons, List.drop_left]
  | cons d s ih =>
    rw [List.mem_cons, not_or] at h
    have hstart : (c :: u).isPrefixOf (d :: (s ++ c :: u ++ rest)) = false := by
      rw [List.isPrefixOf_cons_cons, beq_eq_false_iff_ne.2 h.1, Bool.false_and]
    change Reader.before (c :: u) (d :: (s ++ c :: u ++ rest)) = _
    rw [Reader.before, hstart, if_neg Bool.false_ne_true, ih h.2]
    rfl

/-- One of two texts is taken, if they part. -/
theorem either (h : s.parts s' = true) (b : Bool) :
    Takes (Reader.either s s') (if b then s else s') b := by
  intro rest
  have hstart : ∀ t : Text, t.isPrefixOf (t ++ rest) = true :=
    fun t => List.isPrefixOf_iff_prefix.2 (List.prefix_append t rest)
  cases b with
  | true => simp [Reader.either, hstart]
  | false => simp [Reader.either, hstart, Text.isPrefixOf_of_parts h]

/-- A text that may be there is taken or not, if the next piece does not
look like it. -/
theorem optional_bind {f : Bool → Reader β} {c : Bool} (h : s.parts s' = true)
    (h' : Takes (f c) (s' ++ t) b) :
    Takes (Reader.optional s >>= f) ((if c then s else []) ++ (s' ++ t)) b := by
  intro rest
  change (Reader.optional s _).bind _ = _
  cases c with
  | true =>
    have hstart : s.isPrefixOf (s ++ (s' ++ t ++ rest)) = true :=
      List.isPrefixOf_iff_prefix.2 (List.prefix_append s _)
    rw [if_pos rfl, Reader.optional, List.append_assoc, if_pos hstart, List.drop_left,
      Option.bind_some]
    exact h' rest
  | false =>
    have hstart : s.isPrefixOf ([] ++ (s' ++ t) ++ rest) = false := by
      rw [List.nil_append, List.append_assoc]
      exact Text.isPrefixOf_of_parts h _
    rw [if_neg Bool.false_ne_true, Reader.optional, hstart, if_neg Bool.false_ne_true,
      Option.bind_some]
    exact h' rest

/-- As many values are taken as there are, within the number that is
allowed. -/
theorem upTo {text : γ → Text} {v : γ → α} {gs : List γ} {n : Nat}
    (h : ∀ g ∈ gs, Takes r (text g) (v g)) (hstop : r t = none) (hn : gs.length ≤ n) :
    Reader.upTo r n (gs.flatMap text ++ t) = some (gs.map v, t) := by
  induction gs generalizing n with
  | nil =>
    cases n with
    | zero => rfl
    | succ n => simp [Reader.upTo, hstop]
  | cons g gs ih =>
    obtain ⟨n, rfl⟩ : ∃ k, n = k + 1 := ⟨n - 1, by rw [List.length_cons] at hn; omega⟩
    rw [List.length_cons] at hn
    have hrest := ih (fun g hg => h g (List.mem_cons_of_mem _ hg)) (Nat.le_of_succ_le_succ hn)
    rw [List.flatMap_cons, List.append_assoc, Reader.upTo, h g List.mem_cons_self]
    simp only [hrest, Option.map_some, List.map_cons]

/-- A row of texts that are not empty has a character for each of
them. -/
theorem length_le_length_flatMap {text : γ → Text} {gs : List γ} (h : ∀ g ∈ gs, text g ≠ []) :
    gs.length ≤ (gs.flatMap text).length := by
  induction gs with
  | nil => exact Nat.le_refl 0
  | cons g gs ih =>
    have hg : 0 < (text g).length := List.length_pos_iff.2 (h g List.mem_cons_self)
    have hgs := ih fun g hg => h g (List.mem_cons_of_mem _ hg)
    rw [List.flatMap_cons, List.length_append, List.length_cons]
    omega

/-- **A row of values is taken whole**, if what follows it is refused as
one more value. -/
theorem many_bind {f : List α → Reader β} {text : γ → Text} {v : γ → α} {gs : List γ}
    (h : ∀ g ∈ gs, Takes r (text g) (v g)) (hne : ∀ g ∈ gs, text g ≠ [])
    (hstop : ∀ rest, r (s' ++ rest) = none) (h' : Takes (f (gs.map v)) s' b) :
    Takes (Reader.many r >>= f) (gs.flatMap text ++ s') b := by
  intro rest
  have hlength : gs.length ≤ (gs.flatMap text ++ (s' ++ rest)).length := by
    rw [List.length_append]
    exact Nat.le_trans (length_le_length_flatMap hne) (Nat.le_add_right _ _)
  change (Reader.upTo r _ _).bind _ = _
  rw [List.append_assoc, upTo h (hstop rest) hlength, Option.bind_some]
  exact h' rest

/-- A text that is taken as a whole is read. -/
theorem whole (h : Takes r s a) : r.whole s = some a := by
  have hread := h []
  rw [List.append_nil] at hread
  rw [Reader.whole, hread]

end Takes

end HandlerGen
