import HandlerGen.Proofs.FlowSpelling
import HandlerGen.Yaml.Document
import Mathlib.Data.List.Forall2
/-!
# From tokens of flow style to nodes

The reader of nodes takes the tokens of a text, a truth value, a list or a
mapping off the front, whatever follows, and reads them as the node that
was meant (`Document.SpellsNode`). `Document.TakesTokens` says this of any
step of reading and goes through a sequence of steps token by token.

Items and entries are read by the same rules: each has a comma behind it,
and the row may end after a comma (`Document.Row`). **So a row is read
element by element** (`Document.Row.takes`), for both kinds at once.

Reading calls itself with one fuel less each time. Three calls lead from a
collection to the node of an element, and the collection has three tokens
more: its brackets, and the comma behind the element. One call leads on to
the rest of a row, which has a comma less. So the count of the tokens is
fuel enough.
-/

namespace HandlerGen

namespace Yaml

namespace Document

variable {α β : Type}

/-- A step of reading takes some tokens off the front, whatever follows,
for a result with a property, and makes no anchor known. -/
def TakesTokens (p : Read α) (ts : List Token) (P : α → Prop) : Prop :=
  ∀ (r : Reader) (rest : List Token), r.tokens.map Prod.fst = ts ++ rest →
    ∃ a r', p.run r = .ok (a, r') ∧ P a ∧ r'.tokens.map Prod.fst = rest ∧ r'.anchors = r.anchors

theorem run_bind_of_run {p : Read α} {f : α → Read β} {r r' : Reader} {a : α}
    (h : p.run r = .ok (a, r')) : (p >>= f).run r = (f a).run r' := by
  rw [StateT.run_bind, h]
  rfl

/-- Looking at a token changes only how far the text has been looked
at. -/
theorem run_peek {r : Reader} {t : Token} {rest : List Token}
    (h : r.tokens.map Prod.fst = t :: rest) :
    ∃ reach, peek.run r = .ok (t, { r with reach }) := by
  obtain ⟨⟨t, reach⟩, tokens, htokens, rfl, -⟩ := List.map_eq_cons_iff.1 h
  refine ⟨reach, ?_⟩
  simp [peek, StateT.run_bind, htokens]
  rfl

namespace TakesTokens

variable {p : Read α} {f : α → Read β} {ts us : List Token} {t : Token} {P : α → Prop}
  {Q : β → Prop} {a : α}

theorem pure (h : P a) : TakesTokens (pure a) [] P := fun r _ hr => ⟨a, r, rfl, h, hr, rfl⟩

theorem mono {P' : α → Prop} (h : TakesTokens p ts P) (hP : ∀ a, P a → P' a) :
    TakesTokens p ts P' := by
  intro r rest hr
  obtain ⟨a, r', hp, ha, hr'⟩ := h r rest hr
  exact ⟨a, r', hp, hP a ha, hr'⟩

/-- **Steps one after the other take tokens one after the other.** -/
theorem bind (h : TakesTokens p ts P) (h' : ∀ a, P a → TakesTokens (f a) us Q) :
    TakesTokens (p >>= f) (ts ++ us) Q := by
  intro r rest hr
  rw [List.append_assoc] at hr
  obtain ⟨a, r₁, hp, ha, hr₁, hanchors₁⟩ := h r _ hr
  obtain ⟨b, r₂, hf, hb, hr₂, hanchors₂⟩ := h' a ha r₁ rest hr₁
  exact ⟨b, r₂, (run_bind_of_run hp).trans hf, hb, hr₂, hanchors₂.trans hanchors₁⟩

/-- What has been read is made something of. -/
theorem map {g : α → β} (h : TakesTokens p ts P) (hg : ∀ a, P a → Q (g a)) :
    TakesTokens (p >>= fun a => Pure.pure (g a)) ts Q :=
  List.append_nil ts ▸ h.bind fun a ha => pure (hg a ha)

/-- The next token is looked at and stays. -/
theorem peek_bind {f : Token → Read β} (h : TakesTokens (f t) (t :: ts) Q) :
    TakesTokens (peek >>= f) (t :: ts) Q := by
  intro r rest hr
  obtain ⟨reach, hpeek⟩ := run_peek hr
  obtain ⟨b, r', hf, hb, hr', hanchors⟩ := h { r with reach } rest hr
  exact ⟨b, r', (run_bind_of_run hpeek).trans hf, hb, hr', hanchors⟩

/-- The next token is passed over. -/
theorem drop_bind {f : Unit → Read β} (h : TakesTokens (f ()) ts Q) :
    TakesTokens (drop >>= f) (t :: ts) Q := by
  intro r rest hr
  have hrest : (r.tokens.tail).map Prod.fst = ts ++ rest := by
    rw [List.map_tail, hr]
    rfl
  exact h { r with tokens := r.tokens.tail, passed := r.passed + 1 } rest hrest

theorem place_bind {f : Nat → Read β} (h : ∀ n, TakesTokens (f n) ts Q) :
    TakesTokens (place >>= f) ts Q := fun r rest hr => h (r.passed + 1) r rest hr

end TakesTokens

/-- A token that a node of flow style starts with. -/
def startsNode : Token → Bool
  | .scalar .. | .flowSequenceStart | .flowMappingStart => true
  | _ => false

/-- Before such a token stand neither an anchor nor a tag. -/
theorem TakesTokens.properties_bind {f : Option Text × Option Text → Read β} {ts : List Token}
    {t : Token} {Q : β → Prop} (ht : startsNode t = true)
    (h : TakesTokens (f (none, none)) (t :: ts) Q) :
    TakesTokens (properties >>= f) (t :: ts) Q := by
  rw [properties, bind_assoc]
  refine TakesTokens.peek_bind ?_
  cases t with
  | scalar text plain => exact h
  | flowSequenceStart => exact h
  | flowMappingStart => exact h
  | _ => exact absurd ht Bool.false_ne_true

/-- Tokens that start a node. -/
def StartNode (ts : List Token) : Prop := ∃ t us, ts = t :: us ∧ startsNode t = true

/-- Where the next token is looked at, the cases in which no node starts do
not matter. -/
theorem TakesTokens.peek_bind_of_startNode {f : Token → Read β} {p : Read β} {ts : List Token}
    {Q : β → Prop} (hts : StartNode ts) (hp : TakesTokens p ts Q)
    (hf : ∀ t, startsNode t = true → f t = p) : TakesTokens (peek >>= f) ts Q := by
  obtain ⟨t, us, rfl, ht⟩ := hts
  exact TakesTokens.peek_bind (hf t ht ▸ hp)

theorem StartNode.append {ts : List Token} (h : StartNode ts) (us : List Token) :
    StartNode (ts ++ us) := by
  obtain ⟨t, ts, rfl, ht⟩ := h
  exact ⟨t, ts ++ us, rfl, ht⟩

theorem StartNode.length_pos {ts : List Token} (h : StartNode ts) : 0 < ts.length := by
  obtain ⟨t, us, rfl, -⟩ := h
  exact Nat.succ_pos _

/-! ## Rows -/

section Row

variable {γ : Type} {gs : List γ} {ts : γ → List Token} {P : γ → α → Prop}

/-- A first element and those behind it. -/
def consRow (one : Read α) (others : Read (List α)) : Read (List α) := do
  let a ← one
  return a :: (← others)

/-- What reads a row of elements, each with a comma behind it, up to a
closing token: empty or not, and with an element before it or not. -/
structure Row (row : Nat → Bool → Read (List α)) (one : Nat → Read α) (stop : Token)
    (starts : List Token → Prop) : Prop where
  empty : ∀ fuel, TakesTokens (row (fuel + 1) true) [stop] (· = [])
  last : ∀ fuel, TakesTokens (row (fuel + 1) false) [.flowEntry, stop] (· = [])
  first : ∀ fuel ts Q, starts ts → TakesTokens (consRow (one fuel) (row fuel false)) ts Q →
    TakesTokens (row (fuel + 1) true) ts Q
  other : ∀ fuel ts Q, starts ts → TakesTokens (consRow (one fuel) (row fuel false)) ts Q →
    TakesTokens (row (fuel + 1) false) (.flowEntry :: ts) Q

variable {row : Nat → Bool → Read (List α)} {one : Nat → Read α} {stop : Token}
  {starts : List Token → Prop} {fuel : Nat}

namespace Row

theorem takes_cons {g : γ} {more : List Token} (hone : TakesTokens (one fuel) (ts g) (P g))
    (hmore : TakesTokens (row fuel false) (.flowEntry :: more) (List.Forall₂ P gs)) :
    TakesTokens (consRow (one fuel) (row fuel false)) (Flow.item (ts g) ++ more)
      (List.Forall₂ P (g :: gs)) := by
  rw [Flow.item, List.append_assoc]
  exact hone.bind fun a ha => hmore.map fun as has => .cons ha has

/-- The elements behind the first, with the comma that stands before
them. -/
theorem takes_others (h : Row row one stop starts) (hstarts : ∀ g ∈ gs, ∀ us, starts (ts g ++ us))
    (hone : ∀ g ∈ gs, ∀ fuel, (ts g).length + 1 ≤ fuel → TakesTokens (one fuel) (ts g) (P g))
    (hfuel : (gs.flatMap fun g => Flow.item (ts g)).length + 2 ≤ fuel) :
    TakesTokens (row fuel false)
      (.flowEntry :: ((gs.flatMap fun g => Flow.item (ts g)) ++ [stop])) (List.Forall₂ P gs) := by
  obtain ⟨fuel, rfl⟩ : ∃ k, fuel = k + 1 := ⟨fuel - 1, by omega⟩
  induction gs generalizing fuel with
  | nil => exact (h.last fuel).mono fun as has => has ▸ .nil
  | cons g gs ih =>
    rw [List.flatMap_cons, List.length_append, Flow.item, List.length_append,
      List.length_singleton] at hfuel
    obtain ⟨fuel, rfl⟩ : ∃ k, fuel = k + 1 := ⟨fuel - 1, by omega⟩
    have hothers := ih (fun g hg => hstarts g (List.mem_cons_of_mem _ hg))
      (fun g hg => hone g (List.mem_cons_of_mem _ hg)) fuel (by omega)
    have hcons := takes_cons (hone g List.mem_cons_self (fuel + 1) (by omega)) hothers
    have hstart := hstarts g List.mem_cons_self
      (.flowEntry :: ((gs.flatMap fun g => Flow.item (ts g)) ++ [stop]))
    rw [List.flatMap_cons, List.append_assoc]
    rw [Flow.item, List.append_assoc] at hcons ⊢
    exact h.other _ _ _ hstart hcons

/-- **A row is read element by element.** -/
theorem takes (h : Row row one stop starts) (hstarts : ∀ g ∈ gs, ∀ us, starts (ts g ++ us))
    (hone : ∀ g ∈ gs, ∀ fuel, (ts g).length + 1 ≤ fuel → TakesTokens (one fuel) (ts g) (P g))
    (hne : ∀ g ∈ gs, ts g ≠ [])
    (hfuel : (gs.flatMap fun g => Flow.item (ts g)).length + 1 ≤ fuel) :
    TakesTokens (row fuel true) ((gs.flatMap fun g => Flow.item (ts g)) ++ [stop])
      (List.Forall₂ P gs) := by
  obtain ⟨fuel, rfl⟩ : ∃ k, fuel = k + 1 := ⟨fuel - 1, by omega⟩
  cases gs with
  | nil => exact (h.empty fuel).mono fun as has => has ▸ .nil
  | cons g gs =>
    have hpos := List.length_pos_iff.2 (hne g List.mem_cons_self)
    rw [List.flatMap_cons, List.length_append, Flow.item, List.length_append,
      List.length_singleton] at hfuel
    have hothers : TakesTokens (row fuel false)
        (.flowEntry :: ((gs.flatMap fun g => Flow.item (ts g)) ++ [stop])) (List.Forall₂ P gs) :=
      h.takes_others (fun g hg => hstarts g (List.mem_cons_of_mem _ hg))
        (fun g hg => hone g (List.mem_cons_of_mem _ hg)) (by omega)
    have hcons := takes_cons (hone g List.mem_cons_self fuel (by omega)) hothers
    have hstart := hstarts g List.mem_cons_self
      (.flowEntry :: ((gs.flatMap fun g => Flow.item (ts g)) ++ [stop]))
    rw [List.flatMap_cons, List.append_assoc]
    rw [Flow.item, List.append_assoc] at hcons ⊢
    exact h.first _ _ _ hstart hcons

end Row

end Row

/-! ## Nodes -/

/-- Tokens that are read as a node with a property, wherever a node may
stand. -/
structure SpellsNode (ts : List Token) (P : Node → Prop) : Prop where
  starts : StartNode ts
  takes : ∀ fuel block indentless, ts.length ≤ fuel →
    TakesTokens (node fuel block indentless) ts P

theorem SpellsNode.mono {ts : List Token} {P P' : Node → Prop} (h : SpellsNode ts P)
    (hP : ∀ n, P n → P' n) : SpellsNode ts P' where
  starts := h.starts
  takes fuel block indentless hfuel := (h.takes fuel block indentless hfuel).mono hP

theorem spellsNode_scalar (text : Text) (plain : Bool) :
    SpellsNode [.scalar text plain]
      (fun n => ∃ place, n = .scalar place (if plain then .ofPlain text else .text) text) where
  starts := ⟨_, _, rfl, rfl⟩
  takes fuel block indentless hfuel := by
    obtain ⟨fuel, rfl⟩ : ∃ k, fuel = k + 1 := ⟨fuel - 1, by simp at hfuel; omega⟩
    rw [node]
    exact .peek_bind (.place_bind fun place => .properties_bind rfl (.peek_bind (.drop_bind
      (.pure ⟨place, rfl⟩))))

theorem row_flowItems : Row flowItems flowItem .flowSequenceEnd StartNode where
  empty fuel := by
    rw [flowItems]
    exact .peek_bind (.drop_bind (.pure rfl))
  last fuel := by
    rw [flowItems]
    exact .peek_bind (.drop_bind (.peek_bind (.drop_bind (.pure rfl))))
  first fuel ts Q hts h := by
    rw [flowItems]
    refine .peek_bind_of_startNode hts h fun t ht => ?_
    cases t <;> first | rfl | exact absurd ht Bool.false_ne_true
  other fuel ts Q hts h := by
    rw [flowItems]
    refine .peek_bind (.drop_bind (.peek_bind_of_startNode hts h fun t ht => ?_))
    cases t <;> first | rfl | exact absurd ht Bool.false_ne_true

theorem row_flowEntries :
    Row flowEntries flowPair .flowMappingEnd (fun ts => ∃ us, ts = .key :: us) where
  empty fuel := by
    rw [flowEntries]
    exact .peek_bind (.drop_bind (.pure rfl))
  last fuel := by
    rw [flowEntries]
    exact .peek_bind (.drop_bind (.peek_bind (.drop_bind (.pure rfl))))
  first fuel ts Q hts h := by
    obtain ⟨us, rfl⟩ := hts
    rw [flowEntries]
    exact .peek_bind h
  other fuel ts Q hts h := by
    obtain ⟨us, rfl⟩ := hts
    rw [flowEntries]
    exact .peek_bind (.drop_bind (.peek_bind h))

theorem takesTokens_flowItem {fuel : Nat} {us : List Token} {P : Node → Prop}
    (h : SpellsNode us P) (hfuel : us.length + 1 ≤ fuel) : TakesTokens (flowItem fuel) us P := by
  obtain ⟨fuel, rfl⟩ : ∃ k, fuel = k + 1 := ⟨fuel - 1, by omega⟩
  rw [flowItem]
  refine .peek_bind_of_startNode h.starts (h.takes fuel false false (by omega)) fun t ht => ?_
  cases t <;> first | rfl | exact absurd ht Bool.false_ne_true

/-- An entry with a text as key. -/
def IsEntry (k : Text) (P : Node → Prop) (e : Entry) : Prop :=
  (∃ place, e.1 = .scalar place .text k) ∧ P e.2

theorem takesTokens_flowPair {fuel : Nat} {k : Text} {us : List Token} {P : Node → Prop}
    (h : SpellsNode us P) (hfuel : us.length + 1 ≤ fuel) :
    TakesTokens (flowPair fuel) (.key :: .scalar k false :: .value :: us) (IsEntry k P) := by
  obtain ⟨fuel, rfl⟩ : ∃ k, fuel = k + 1 := ⟨fuel - 1, by omega⟩
  have hpos := h.starts.length_pos
  have hkey := (spellsNode_scalar k false).takes fuel false false (by simp; omega)
  have hvalue := h.takes fuel false false (by omega)
  rw [flowPair]
  refine .peek_bind (.drop_bind (.peek_bind (hkey.bind fun key hk => .peek_bind (.drop_bind ?_))))
  have hpair : TakesTokens (node fuel false false >>= fun value => pure (key, value)) us
      (IsEntry k P) := hvalue.map fun value hv => ⟨hk, hv⟩
  refine .peek_bind_of_startNode h.starts hpair fun t ht => ?_
  cases t <;> first | rfl | exact absurd ht Bool.false_ne_true

variable {γ : Type} {gs : List γ} {ts : γ → List Token} {P : γ → Node → Prop}

/-- **A list is read as a sequence of its items.** -/
theorem spellsNode_listed (h : ∀ g ∈ gs, SpellsNode (ts g) (P g)) :
    SpellsNode (Flow.listed (gs.map ts))
      (fun n => ∃ place items, n = .sequence place .sequence items ∧ List.Forall₂ P gs items) where
  starts := ⟨_, _, rfl, rfl⟩
  takes fuel block indentless hfuel := by
    have hitems : (gs.map ts).flatMap Flow.item = gs.flatMap fun g => Flow.item (ts g) :=
      List.flatMap_map ..
    rw [Flow.listed, hitems] at hfuel ⊢
    simp only [List.length_cons, List.length_append, List.length_nil] at hfuel
    obtain ⟨fuel, rfl⟩ : ∃ k, fuel = k + 1 := ⟨fuel - 1, by omega⟩
    have hread : TakesTokens (flowItems fuel true)
        ((gs.flatMap fun g => Flow.item (ts g)) ++ [.flowSequenceEnd]) (List.Forall₂ P gs) :=
      row_flowItems.takes (fun g hg us => (h g hg).starts.append us)
        (fun g hg fuel => takesTokens_flowItem (h g hg))
        (fun g hg => List.length_pos_iff.1 (h g hg).starts.length_pos) (by omega)
    rw [node]
    exact .peek_bind (.place_bind fun place => .properties_bind rfl (.peek_bind (.drop_bind
      (hread.map fun items hitems => ⟨place, items, rfl, hitems⟩))))

/-- **A mapping is read as a mapping of its keys.** -/
theorem spellsNode_mapped {key : γ → Text} (h : ∀ g ∈ gs, SpellsNode (ts g) (P g)) :
    SpellsNode (Flow.mapped (gs.map fun g => (key g, ts g)))
      (fun n => ∃ place es, n = .mapping place .mapping es
        ∧ List.Forall₂ (fun g => IsEntry (key g) (P g)) gs es) where
  starts := ⟨_, _, rfl, rfl⟩
  takes fuel block indentless hfuel := by
    have hentries : (gs.map fun g => (key g, ts g)).flatMap Flow.entry
        = gs.flatMap fun g => Flow.item (.key :: .scalar (key g) false :: .value :: ts g) :=
      List.flatMap_map ..
    rw [Flow.mapped, hentries] at hfuel ⊢
    simp only [List.length_cons, List.length_append, List.length_nil] at hfuel
    obtain ⟨fuel, rfl⟩ : ∃ k, fuel = k + 1 := ⟨fuel - 1, by omega⟩
    have hpair : ∀ g ∈ gs, ∀ fuel,
        (Token.key :: .scalar (key g) false :: .value :: ts g).length + 1 ≤ fuel →
        TakesTokens (flowPair fuel) (.key :: .scalar (key g) false :: .value :: ts g)
          (IsEntry (key g) (P g)) := by
      intro g hg fuel hfuel
      simp only [List.length_cons] at hfuel
      exact takesTokens_flowPair (h g hg) (by omega)
    have hread : TakesTokens (flowEntries fuel true)
        ((gs.flatMap fun g => Flow.item (.key :: .scalar (key g) false :: .value :: ts g))
          ++ [.flowMappingEnd]) (List.Forall₂ (fun g => IsEntry (key g) (P g)) gs) :=
      row_flowEntries.takes (fun g hg us => ⟨_, rfl⟩) hpair (fun g hg => List.cons_ne_nil _ _)
        (by omega)
    rw [node]
    exact .peek_bind (.place_bind fun place => .properties_bind rfl (.peek_bind (.drop_bind
      (hread.map fun es hes => ⟨place, es, rfl, hes⟩))))

/-! ## Documents -/

/-- Behind the last token there is no further document. -/
theorem run_noFurther {r : Reader} (h : r.tokens.map Prod.fst = [.streamEnd]) (fuel : Nat) :
    ∃ r', (noFurther (fuel + 1)).run r = .ok ((), r') ∧ r'.anchors = r.anchors := by
  obtain ⟨reach, hpeek⟩ := run_peek h
  have hmarkers : (endMarkers (fuel + 1)).run r = .ok ((), { r with reach }) := by
    rw [endMarkers, run_bind_of_run hpeek]
    rfl
  have hr : ({ r with reach } : Reader).tokens.map Prod.fst = [.streamEnd] := h
  obtain ⟨reach', hpeek'⟩ := run_peek hr
  refine ⟨{ r with reach := reach' }, ?_, rfl⟩
  rw [noFurther, run_bind_of_run hmarkers, run_bind_of_run hpeek']
  rfl

/-- **Tokens that are read as a node make a document.** -/
theorem ofTokens_of_spellsNode {ts : List Token} {P : Node → Prop} (h : SpellsNode ts P)
    {out : Lexer.Output} (hout : out.tokens.map Prod.fst = ts ++ [.streamEnd]) :
    ∃ doc, ofTokens out = .ok doc ∧ P doc.root ∧ doc.anchors = [] := by
  have hsize : ts.length ≤ 3 * out.tokens.length + 3 := by
    have hlength := congrArg List.length hout
    rw [List.length_map, List.length_append] at hlength
    omega
  let start : Reader := { tokens := out.tokens, halt := out.halt }
  have hread : ∃ n r, (outermost (3 * out.tokens.length + 3)).run start = .ok (n, r) ∧ P n
      ∧ r.anchors = [] := by
    obtain ⟨t, us, rfl, ht⟩ := h.starts
    obtain ⟨reach, hpeek⟩ := run_peek (r := start) hout
    obtain ⟨n, r, hnode, hn, hr, hanchors⟩ := h.takes _ true false hsize { start with reach } _ hout
    obtain ⟨r', hfurther, hanchors'⟩ := run_noFurther hr (3 * out.tokens.length + 2)
    have hrest : (do
        let n ← node (3 * out.tokens.length + 3) true false
        noFurther (3 * out.tokens.length + 3)
        return n : Read Node).run { start with reach } = .ok (n, r') := by
      rw [run_bind_of_run hnode, run_bind_of_run hfurther]
      rfl
    refine ⟨n, r', ?_, hn, hanchors'.trans hanchors⟩
    rw [outermost, run_bind_of_run hpeek]
    cases t with
    | scalar text plain => exact hrest
    | flowSequenceStart => exact hrest
    | flowMappingStart => exact hrest
    | _ => exact absurd ht Bool.false_ne_true
  obtain ⟨n, r, hrun, hn, hanchors⟩ := hread
  refine ⟨{ root := n, anchors := r.anchors, size := out.tokens.length }, ?_, hn, hanchors⟩
  unfold ofTokens
  simp only
  rw [hrun]

end Document

end Yaml

end HandlerGen
