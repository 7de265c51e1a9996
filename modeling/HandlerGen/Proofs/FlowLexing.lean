import HandlerGen.Proofs.EscapedText
import HandlerGen.Yaml.Token.Lexer
/-!
# Reading tokens of flow style

What the lexer does at each token of a text in flow style, which has no
blanks and no block collections in it. A lexer stands with some tokens
behind it and a text before it, at a depth of flow collections
(`Lexer.Stands`); reading a token takes it to the next such place
(`Lexer.leads_of_token`, and a lemma for each token).

Pending keys come and go on the way. That does no harm as long as no line
must start with a key (`Lexer.Optional`) and none is pending where a colon
is read: behind a question mark no key may start until the colon
(`Lexer.Unkeyed`).
-/

namespace HandlerGen

namespace Yaml

namespace Lexer

/-- All tokens so far. -/
def tokens (s : Lexer) : List Token := s.settled.reverse.map Prod.fst ++ s.held.reverse

/-- Whether no line must start with a pending key. -/
def Optional (p : Option PendingKey) : Prop := ∀ k ∈ p, k.required = false

/-- A lexer with some tokens behind it and a text before it, at a depth of
flow collections, that follows no block collection. -/
structure Stands (s : Lexer) (ts : List Token) (depth : Nat) (rest : Text) : Prop where
  tokens : s.tokens = ts
  depth : s.outerPending.length = depth
  rest : s.cursor.rest = rest
  indent : s.indent = -1
  outerIndents : s.outerIndents = []
  pending : Optional s.pending
  outerPending : ∀ p ∈ s.outerPending, Optional p

/-- No key is pending and none may start. -/
def Unkeyed (s : Lexer) : Prop := s.pending = none ∧ s.keyAllowed = false

variable {s s' : Lexer} {ts : List Token} {depth : Nat} {t rest : Text} {c : Cursor} {ch : Char}

/-! ## What comes before a token -/

theorem dropPending_of_optional {p : Option PendingKey} (h : Optional p) :
    dropPending c p = .ok none := by
  cases p with
  | none => rfl
  | some k => rw [dropPending, h k rfl, if_neg Bool.false_ne_true]

theorem refresh_of_optional {p : Option PendingKey} (h : Optional p) :
    ∃ p', refresh c p = .ok p' ∧ Optional p' ∧ (p = none → p' = none) := by
  cases p with
  | none => exact ⟨none, rfl, h, fun _ => rfl⟩
  | some k =>
    rw [refresh]
    split
    · exact ⟨none, dropPending_of_optional h, fun _ hk => absurd hk (by simp), fun _ => rfl⟩
    · exact ⟨some k, rfl, h, fun hk => absurd hk (by simp)⟩

theorem refreshAll_of_optional {ps : List (Option PendingKey)} (h : ∀ p ∈ ps, Optional p) :
    ∃ ps', refreshAll c ps = .ok ps' ∧ ps'.length = ps.length ∧ ∀ p ∈ ps', Optional p := by
  induction ps with
  | nil => exact ⟨[], rfl, rfl, h⟩
  | cons p ps ih =>
    obtain ⟨ps', hps, hlength, hall⟩ := ih fun p hp => h p (List.mem_cons_of_mem _ hp)
    obtain ⟨p', hp, hoptional, -⟩ := refresh_of_optional (c := c) (h p List.mem_cons_self)
    refine ⟨p' :: ps', ?_, by rw [List.length_cons, List.length_cons, hlength],
      List.forall_mem_cons.2 ⟨hoptional, hall⟩⟩
    rw [refreshAll, hps]
    change (refresh c p >>= fun p => pure (p :: ps')) = _
    rw [hp]
    rfl

/-- A lexer stays where it is while keys are forgotten. -/
theorem forgetStaleKeys_of_stands (h : s.Stands ts depth rest) :
    ∃ s', s.forgetStaleKeys = .ok s' ∧ s'.Stands ts depth rest ∧ (s.Unkeyed → s'.Unkeyed) := by
  obtain ⟨ps, hps, hlength, houter⟩ := refreshAll_of_optional (c := s.cursor) h.outerPending
  obtain ⟨p, hp, hpending, hnone⟩ := refresh_of_optional (c := s.cursor) h.pending
  refine ⟨{ s with outerPending := ps, pending := p }, ?_,
    { h with depth := hlength.trans h.depth, pending := hpending, outerPending := houter },
    fun hkey => ⟨hnone hkey.1, hkey.2⟩⟩
  rw [forgetStaleKeys, hps]
  change (refresh s.cursor s.pending >>= fun p => pure _) = _
  rw [hp]
  rfl

/-- Settling moves tokens, and loses none. -/
theorem tokens_settle (s : Lexer) (n reach : Nat) :
    tokens { s with
      settled := (s.held.drop n).map (fun t => (t, reach)) ++ s.settled
      held := s.held.take n } = s.tokens := by
  have hheld : (s.held.drop n).reverse ++ (s.held.take n).reverse = s.held.reverse := by
    rw [← List.reverse_append, List.take_append_drop]
  rw [tokens, tokens, ← hheld]
  simp [Function.comp_def]

/-- And while tokens are settled. -/
theorem settle_of_stands (h : s.Stands ts depth rest) :
    ∃ s', s.settle = .ok s' ∧ s'.Stands ts depth rest ∧ (s.Unkeyed → s'.Unkeyed) := by
  obtain ⟨s₁, hforget, h₁, hkey⟩ := forgetStaleKeys_of_stands h
  have hsettle : s.settle = (.ok s₁ >>= fun s => .ok { s with
      settled := (s.held.drop (s.count - s.firstPending.getD s.count)).map
        (fun t => (t, s.cursor.reach)) ++ s.settled
      held := s.held.take (s.count - s.firstPending.getD s.count) }) := by
    rw [settle, hforget]
    rfl
  exact ⟨_, hsettle, { h₁ with tokens := (tokens_settle s₁ _ _).trans h₁.tokens }, hkey⟩

/-- A character that starts a token where it stands. -/
def startsToken (c : Char) : Bool := c != ' ' && c != '#' && c != '\uFEFF' && !isBreak c

theorem ne_of_startsToken (h : startsToken ch = true) :
    ch ≠ ' ' ∧ ch ≠ '#' ∧ ch ≠ '\uFEFF' ∧ isBreak ch = false := by
  simpa [startsToken, and_assoc] using h

/-- Before such a character, or at the end, stand no spaces and no
comment, -/
theorem skipComment_of_startsToken (h : c.rest.head?.all startsToken) : c.skipComment = c := by
  cases hrest : c.rest with
  | nil => simp [Cursor.skipComment, Cursor.dropWhile, Cursor.takeWhile, Cursor.skip, hrest]
  | cons ch t =>
    rw [hrest] at h
    obtain ⟨hspace, hhash, -⟩ := ne_of_startsToken h
    have hdrop : c.dropWhile (· == ' ') = c := by
      simp [Cursor.dropWhile, Cursor.takeWhile, Cursor.skip, hrest, hspace]
    simp [Cursor.skipComment, hdrop, hrest, hhash]

/-- and no line end, -/
theorem lineBreak_of_startsToken (h : c.rest.head?.all startsToken) : c.lineBreak = ([], c) := by
  cases hrest : c.rest with
  | nil => simp [Cursor.lineBreak, hrest]
  | cons ch t =>
    rw [hrest] at h
    obtain ⟨-, -, -, hbreak⟩ := ne_of_startsToken h
    have hne : ¬ (ch = '\n' ∨ ch = '\x85') := by
      rintro (rfl | rfl)
      · exact absurd hbreak (by decide)
      · exact absurd hbreak (by decide)
    simp [Cursor.lineBreak, hrest, hne, hbreak]

/-- and no byte order mark. -/
theorem skipMark_of_startsToken (h : s.cursor.rest.head?.all startsToken) : s.skipMark = s := by
  unfold skipMark
  split
  · next hrest =>
    rw [hrest] at h
    exact absurd rfl (ne_of_startsToken h).2.2.1
  · rfl

/-- So nothing is skipped. -/
theorem skipBlanks_of_startsToken (h : s.cursor.rest.head?.all startsToken) (n : Nat) :
    skipBlanks (n + 1) s.skipMark = s := by
  rw [skipMark_of_startsToken h]
  simp only [skipBlanks, skipComment_of_startsToken h, lineBreak_of_startsToken h]

/-- No block collection is closed. -/
theorem unwind_of_stands (h : s.Stands ts depth rest) (column : Int) : s.unwind column = s := by
  rw [unwind, h.outerIndents, closeDeeper, ite_self]

/-- The next token is the one that stands there. -/
theorem advance_of_stands (h : s.Stands ts depth rest) (hstart : rest.head?.all startsToken) :
    ∃ s', s.advance = .ok s' ∧ s'.Stands ts depth rest ∧ (s.Unkeyed → s'.Unkeyed) := by
  have hblanks : skipBlanks (s.cursor.rest.length + 1) s.skipMark = s :=
    skipBlanks_of_startsToken (h.rest.symm ▸ hstart) _
  obtain ⟨s₁, hforget, h₁, hkey⟩ := forgetStaleKeys_of_stands h
  refine ⟨s₁, ?_, h₁, hkey⟩
  rw [advance, hblanks, hforget]
  exact congrArg Except.ok (unwind_of_stands h₁ _)

theorem next_of_advance (h : s.advance = .ok s') :
    s.next = match s'.cursor.rest with
      | [] => do return ((← s'.closeAll).emit .streamEnd, true)
      | ch :: t => do return (← s'.token ch t, false) := by
  rw [next, h]
  rfl

/-! ## One token -/

/-- A lexer comes to stand as another after so many tokens. -/
def Leads (s : Lexer) (n : Nat) (s' : Lexer) : Prop := ∀ fuel, s.run (fuel + n) = s'.run fuel

theorem Leads.trans {s'' : Lexer} {n m : Nat} (h : s.Leads n s') (h' : s'.Leads m s'') :
    s.Leads (n + m) s'' := by
  intro fuel
  rw [Nat.add_comm n m, ← Nat.add_assoc, h, h']

/-- **A lexer reads the token that stands before it.** -/
theorem leads_of_token (h : s.Stands ts depth (ch :: t)) (hstart : startsToken ch = true) :
    ∃ s₁ : Lexer, s₁.Stands ts depth (ch :: t) ∧ (s.Unkeyed → s₁.Unkeyed)
      ∧ ∀ s', s₁.token ch t = .ok s' → s.Leads 1 s' := by
  obtain ⟨s₀, hsettle, h₀, hkey₀⟩ := settle_of_stands h
  obtain ⟨s₁, hadvance, h₁, hkey₁⟩ := advance_of_stands h₀ hstart
  refine ⟨s₁, h₁, fun hkey => hkey₁ (hkey₀ hkey), fun s' htoken fuel => ?_⟩
  have hnext : s₀.next = .ok (s', false) := by
    rw [next_of_advance hadvance, h₁.rest]
    simp only [htoken]
    rfl
  rw [run, hsettle]
  simp only [hnext]

/-- A lexer that has read a token is behind it. -/
theorem stands_emit {tok : Token} (h : s.Stands ts depth t) (hc : c.rest = rest)
    (keyAllowed : Bool) :
    { s.emit tok with cursor := c, keyAllowed }.Stands (ts ++ [tok]) depth rest := by
  have htokens : (s.emit tok).tokens = ts ++ [tok] := by
    simp [tokens, emit, ← h.tokens]
  exact { h with tokens := htokens, rest := hc }

theorem stands_take {tok : Token} (h : s.Stands ts depth (ch :: t)) :
    (s.take 1 tok).Stands (ts ++ [tok]) depth t := by
  have hrest : (s.cursor.skip 1).rest = t := by
    rw [Cursor.rest_skip, h.rest]
    rfl
  exact stands_emit h hrest s.keyAllowed

theorem forgetKey_of_stands (h : s.Stands ts depth rest) :
    s.forgetKey = .ok { s with pending := none } := by
  rw [forgetKey, dropPending_of_optional h.pending]
  rfl

theorem optional_none : Optional none := fun _ h => absurd h (by simp)

/-- Where no line must start with a key, one may be noted. -/
theorem noteKey_of_stands (h : s.Stands ts depth rest) :
    ∃ s', s.noteKey = .ok s' ∧ s'.Stands ts depth rest ∧ (s.keyAllowed = false → s' = s) := by
  unfold noteKey
  split
  · next hallowed =>
    have hrequired : (!s.inFlow && s.indent == s.cursor.column) = false := by
      rw [h.indent, Bool.and_eq_false_iff]
      exact .inr (beq_eq_false_iff_ne.2 (by omega))
    rw [forgetKey_of_stands h]
    refine ⟨_, rfl, { h with pending := ?_ }, fun hnot => absurd hallowed (by simp [hnot])⟩
    rintro k ⟨⟩
    exact hrequired
  · exact ⟨s, rfl, h, fun _ => rfl⟩

theorem atMarker_cons_of_ne {mark : Char} (h : ch ≠ mark) : atMarker mark (ch :: t) = false := by
  unfold atMarker
  split
  · next heq =>
    obtain ⟨rfl, -⟩ := List.cons.inj heq
    simp [h]
  · rfl

/-- The indicators that open a flow collection. -/
inductive Opens : Char → Token → Prop
  | sequence : Opens '[' .flowSequenceStart
  | mapping : Opens '\x7b' .flowMappingStart

/-- The indicators that close one. -/
inductive Closes : Char → Token → Prop
  | sequence : Closes ']' .flowSequenceEnd
  | mapping : Closes '\x7d' .flowMappingEnd

variable {tok : Token}

theorem leads_opens (h : s.Stands ts depth (ch :: t)) (hch : Opens ch tok) :
    ∃ s', s'.Stands (ts ++ [tok]) (depth + 1) t ∧ s.Leads 1 s' := by
  have hstart : startsToken ch = true := by cases hch <;> decide
  obtain ⟨s₁, h₁, -, hleads⟩ := leads_of_token h hstart
  have htoken : s₁.token ch t = s₁.openFlow tok := by
    cases hch <;> simp [token, lookAhead, atMarker_cons_of_ne]
  obtain ⟨s₂, hnote, h₂, -⟩ := noteKey_of_stands h₁
  rw [openFlow, hnote] at htoken
  refine ⟨_, ?_, hleads _ htoken⟩
  have hdepth : (s₂.pending :: s₂.outerPending).length = depth + 1 := congrArg (· + 1) h₂.depth
  exact stands_take { h₂ with
    depth := hdepth
    pending := optional_none
    outerPending := List.forall_mem_cons.2 ⟨h₂.pending, h₂.outerPending⟩ }

theorem leads_closes (h : s.Stands ts (depth + 1) (ch :: t)) (hch : Closes ch tok) :
    ∃ s', s'.Stands (ts ++ [tok]) depth t ∧ s.Leads 1 s' := by
  have hstart : startsToken ch = true := by cases hch <;> decide
  obtain ⟨s₁, h₁, -, hleads⟩ := leads_of_token h hstart
  have htoken : s₁.token ch t = s₁.closeFlow tok := by
    cases hch <;> simp [token, lookAhead, atMarker_cons_of_ne]
  obtain ⟨p, ps, hps⟩ := List.exists_cons_of_length_eq_add_one h₁.depth
  rw [closeFlow, forgetKey_of_stands h₁] at htoken
  simp only [hps, bind, Except.bind] at htoken
  refine ⟨_, ?_, hleads _ htoken⟩
  have houter := h₁.outerPending
  rw [hps, List.forall_mem_cons] at houter
  have hdepth := h₁.depth
  rw [hps] at hdepth
  exact stands_take { h₁ with
    depth := Nat.succ.inj hdepth
    pending := houter.1
    outerPending := houter.2 }

theorem leads_flowEntry (h : s.Stands ts (depth + 1) (',' :: t)) :
    ∃ s', s'.Stands (ts ++ [.flowEntry]) (depth + 1) t ∧ s.Leads 1 s' := by
  obtain ⟨s₁, h₁, -, hleads⟩ := leads_of_token h (by decide)
  have htoken : s₁.token ',' t
      = .ok ({ s₁ with pending := none, keyAllowed := true }.take 1 .flowEntry) := by
    have hentry : s₁.token ',' t = s₁.flowEntry := by
      simp [token, lookAhead, atMarker_cons_of_ne]
    rw [hentry, flowEntry, forgetKey_of_stands h₁]
    rfl
  have hopen : { s₁ with pending := none, keyAllowed := true }.Stands ts (depth + 1) (',' :: t) :=
    { h₁ with pending := optional_none }
  exact ⟨_, stands_take hopen, hleads _ htoken⟩

theorem inFlow_of_stands (h : s.Stands ts (depth + 1) rest) : s.inFlow = true := by
  obtain ⟨p, ps, hps⟩ := List.exists_cons_of_length_eq_add_one h.depth
  rw [inFlow, hps]
  rfl

/-- Inside a flow collection a question mark and a colon stand for
themselves, whatever follows. -/
theorem lookAhead_of_inFlow (h : s.inFlow = true) (hch : ch = '?' ∨ ch = ':') :
    { s with cursor := s.lookAhead ch } = s := by
  have hcursor : s.lookAhead ch = s.cursor := by
    rcases hch with rfl | rfl <;> simp [lookAhead, h]
  rw [hcursor]

/-- Behind the question mark no other key starts. -/
theorem leads_key (h : s.Stands ts (depth + 1) ('?' :: t)) :
    ∃ s', s'.Stands (ts ++ [.key]) (depth + 1) t ∧ s'.Unkeyed ∧ s.Leads 1 s' := by
  obtain ⟨s₁, h₁, -, hleads⟩ := leads_of_token h (by decide)
  have hflow := inFlow_of_stands h₁
  have htoken : s₁.token '?' t
      = .ok ({ s₁ with pending := none, keyAllowed := false }.take 1 .key) := by
    have hkey : s₁.token '?' t = s₁.explicitKey := by
      simp [token, lookAhead_of_inFlow hflow, hflow, atMarker_cons_of_ne]
    rw [hkey, explicitKey, if_pos hflow, forgetKey_of_stands h₁]
    rfl
  have hnone : { s₁ with pending := none, keyAllowed := false }.Stands ts (depth + 1) ('?' :: t) :=
    { h₁ with pending := optional_none }
  exact ⟨_, stands_take hnone, ⟨rfl, rfl⟩, hleads _ htoken⟩

/-- The colon behind an announced key puts no key before it. -/
theorem leads_value (h : s.Stands ts (depth + 1) (':' :: t)) (hkey : s.Unkeyed) :
    ∃ s', s'.Stands (ts ++ [.value]) (depth + 1) t ∧ s.Leads 1 s' := by
  obtain ⟨s₁, h₁, hkey₁, hleads⟩ := leads_of_token h (by decide)
  have hflow := inFlow_of_stands h₁
  have htoken : s₁.token ':' t = .ok ({ s₁ with keyAllowed := false }.take 1 .value) := by
    have hvalue : s₁.token ':' t = s₁.valueIndicator := by
      simp [token, lookAhead_of_inFlow hflow, hflow, atMarker_cons_of_ne]
    rw [hvalue, valueIndicator, (hkey₁ hkey).1]
    exact if_pos hflow
  have hnone : { s₁ with keyAllowed := false }.Stands ts (depth + 1) (':' :: t) := { h₁ with }
  exact ⟨_, stands_take hnone, hleads _ htoken⟩

/-- A text between double quotes, every character as an escape. -/
theorem leads_quoted {u : Text}
    (h : s.Stands ts depth ('"' :: (u.flatMap escaped ++ '"' :: t))) :
    ∃ s', s'.Stands (ts ++ [.scalar u false]) depth t ∧ (s.Unkeyed → s'.Unkeyed)
      ∧ s.Leads 1 s' := by
  obtain ⟨s₁, h₁, hkey₁, hleads⟩ := leads_of_token h (by decide)
  obtain ⟨s₂, hnote, h₂, hsame⟩ := noteKey_of_stands h₁
  have hlength : u.length < s₂.cursor.rest.length := by
    have hescaped : u.length ≤ (u.flatMap escaped).length :=
      Takes.length_le_length_flatMap fun c _ => List.cons_ne_nil _ _
    rw [h₂.rest, List.length_cons, List.length_append]
    omega
  have hstep : s₂.cursor.step.rest = u.flatMap escaped ++ '"' :: t := by
    rw [Cursor.rest_step, h₂.rest]
    rfl
  obtain ⟨c, hread, hc⟩ := Quoted.read_escaped hlength hstep
  have htoken : s₁.token '"' (u.flatMap escaped ++ '"' :: t)
      = .ok { s₂.emit (Token.scalar u false) with cursor := c, keyAllowed := false } := by
    have hquoted : s₁.token '"' (u.flatMap escaped ++ '"' :: t) = s₁.quoted '"' := by
      simp [token, lookAhead, atMarker_cons_of_ne]
    rw [hquoted, quoted, hnote]
    change put { s₂ with keyAllowed := false }
      ((s₂.cursor.quoted '"').map fun p => (Token.scalar p.1 false, p.2)) = _
    rw [Cursor.quoted, hread]
    rfl
  refine ⟨_, stands_emit h₂ hc false, fun hkey => ?_, hleads _ htoken⟩
  have hsame' := hsame (hkey₁ hkey).2
  exact ⟨hsame' ▸ (hkey₁ hkey).1, rfl⟩

/-- Inside a flow collection a comma ends a word. -/
theorem plain_flagWord {b : Bool} (h : c.rest = flagWord b ++ ',' :: t) (indent : Int) :
    ∃ c', c.plain true indent = (flagWord b, c', false) ∧ c'.rest = ',' :: t := by
  have hword : Plain.word true c.rest = flagWord b := by
    rw [h]
    cases b <;> rfl
  have hbehind : (c.skip (flagWord b).length).rest = ',' :: t := by
    rw [Cursor.rest_skip, h, List.drop_left]
  have hcolon : Plain.lookBehindColon (c.skip (flagWord b).length)
      = c.skip (flagWord b).length := by
    simp [Plain.lookBehindColon, hbehind]
  have hgap : Plain.gap (c.skip (flagWord b).length)
      = ([], c.skip (flagWord b).length, false) := by
    simp [Plain.gap, Cursor.takeWhile, Cursor.skip, hbehind, atLineEnd, isBreak]
  obtain ⟨n, hn⟩ : ∃ n, c.rest.length = n + 1 := by
    cases hrest : c.rest with
    | nil => cases b <;> simp [hrest, flagWord] at h
    | cons ch t => exact ⟨t.length, rfl⟩
  refine ⟨_, ?_, hbehind⟩
  rw [Cursor.plain, hn, Plain.read, hword]
  simp only [hcolon, hgap]
  rfl

/-- A truth value without quotes, before a comma. -/
theorem leads_flag {b : Bool} (h : s.Stands ts (depth + 1) (flagWord b ++ ',' :: t)) :
    ∃ s', s'.Stands (ts ++ [.scalar (flagWord b) true]) (depth + 1) (',' :: t) ∧ s.Leads 1 s' := by
  obtain ⟨ch, w, hw, hstart⟩ : ∃ ch w, flagWord b = ch :: w ∧ startsToken ch = true := by
    cases b <;> exact ⟨_, _, rfl, by decide⟩
  have hplain : ∀ s : Lexer, s.token ch (w ++ ',' :: t) = s.plain := by
    intro s
    cases b <;> obtain ⟨rfl, rfl⟩ := List.cons.inj hw <;>
      simp [token, lookAhead, atMarker_cons_of_ne, startsPlain, isSpace, isBreak]
  rw [hw, List.cons_append] at h
  obtain ⟨s₁, h₁, -, hleads⟩ := leads_of_token h hstart
  obtain ⟨s₂, hnote, h₂, -⟩ := noteKey_of_stands h₁
  rw [← List.cons_append, ← hw] at h₂
  obtain ⟨c, hread, hc⟩ := plain_flagWord h₂.rest (s₂.indent + 1)
  have htoken : s₁.token ch (w ++ ',' :: t)
      = .ok { s₂.emit (Token.scalar (flagWord b) true) with cursor := c, keyAllowed := false } := by
    rw [hplain, plain, hnote]
    let p := s₂.cursor.plain s₂.inFlow (s₂.indent + 1)
    change Except.ok { s₂.emit (.scalar p.1 true) with cursor := p.2.1, keyAllowed := p.2.2 } = _
    have hp : p = (flagWord b, c, false) := by
      rw [← hread, ← inFlow_of_stands h₂]
    rw [hp]
  exact ⟨_, stands_emit h₂ hc false, hleads _ htoken⟩

/-! ## The end of the text -/

/-- At the end of the text no collection is open, and the tokens are those
that have been read. -/
theorem run_of_stands (h : s.Stands ts 0 []) (n : Nat) :
    (s.run (n + 1)).tokens.map Prod.fst = ts ++ [.streamEnd] := by
  obtain ⟨s₀, hsettle, h₀, -⟩ := settle_of_stands h
  obtain ⟨s₁, hadvance, h₁, -⟩ := advance_of_stands h₀ rfl
  have hclose : s₁.closeAll = .ok { s₁ with pending := none, keyAllowed := false } := by
    rw [closeAll, unwind_of_stands h₁, forgetKey_of_stands h₁]
    rfl
  have hnext : s₀.next
      = .ok ({ s₁ with pending := none, keyAllowed := false }.emit .streamEnd, true) := by
    rw [next_of_advance hadvance, h₁.rest]
    simp only [hclose]
    rfl
  rw [run, hsettle]
  simp only [hnext]
  have htokens := h₁.tokens
  rw [tokens] at htokens
  simp [finished, emit, ← htokens, Function.comp_def]

end Lexer

end Yaml

end HandlerGen
