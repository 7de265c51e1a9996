import HandlerGen.Proofs.Loading
import HandlerGen.Proofs.NamePatterns
import Mathlib.Data.List.Forall2
/-!
# The checks of a record

The schema of a record is a row of checks (`RecordCheck.row`): first that
it is a mapping, then its name, the three flags, the two texts, and its
parameters one by one. A record is read by making these checks in this
order (`Descriptor.decides_ofValue`), so **a record is read as a descriptor
just if all of its checks hold, and is refused for the first that does
not** (`Descriptor.ofValue_schema`).

A refusal has a message that starts with the place of the record, or with
its name once that is known. There is one exception: the name of a
parameter may be an integer, and if it has too many digits to be shown
there is no message.
-/

namespace HandlerGen

/-- What a record is checked for. -/
inductive RecordCheck
  /-- It is a mapping. -/
  | mapping
  /-- It has a name. -/
  | name
  /-- The name is snake-case. -/
  | nameShape
  /-- A flag that is given is a truth value. -/
  | flag (f : Flag)
  /-- It has a text at this key. -/
  | text (key : Text)
  /-- Parameters that are given are a mapping. -/
  | parameters
  /-- This key of the parameters is an identifier. -/
  | parameterName (key : Scalar)
  /-- The rule of this parameter is a text, if there is any. -/
  | parameterRule (param : Text) (rule : Value)

/-- The value at a key of a value that is a mapping. -/
def Value.at? : Value → Text → Option Value
  | .dict record, key => Descriptor.field? record key
  | _, _ => none

/-- What is given is a text that shows. -/
def IsShownText (given : Option Value) : Prop :=
  ∃ t, given = some (.scalar (.text t)) ∧ ∃ c ∈ t, isBlank c = false

/-- Nothing is given: there is no value, or null. -/
def IsLeftOut (given : Option Value) : Prop := given = none ∨ given = some .null

namespace RecordCheck

/-- What a check says of a value. A name may have one line feed behind it,
and so may an identifier. -/
def Holds (v : Value) : RecordCheck → Prop
  | mapping => ∃ record, v = .dict record
  | name => IsShownText (v.at? "name")
  | nameShape => ∃ t, v.at? "name" = some (.scalar (.text t))
      ∧ (t ∈ Pattern.snakeCase ∨ ∃ n ∈ Pattern.snakeCase, t = n ++ ['\n'])
  | flag f => IsLeftOut (v.at? f.key) ∨ ∃ b, v.at? f.key = some (.scalar (.bool b))
  | text key => IsShownText (v.at? key)
  | parameters => IsLeftOut (v.at? "parameters") ∨ ∃ es, v.at? "parameters" = some (.dict es)
  | parameterName key => ∃ t, key = .text t
      ∧ (t ∈ Pattern.identifier ∨ ∃ n ∈ Pattern.identifier, t = n ++ ['\n'])
  | parameterRule _ rule => rule = .null ∨ ∃ t, rule = .scalar (.text t)

/-- The checks of a parameter. -/
def ofEntry : Scalar × Value → List RecordCheck
  | (.text param, rule) => [parameterName (.text param), parameterRule param rule]
  | (key, _) => [parameterName key]

/-- The checks of the parameters that are given. -/
def ofParameters : Option Value → List RecordCheck
  | some (.dict es) => es.flatMap ofEntry
  | _ => []

/-- **The checks of a value, in the order in which they are made.** -/
def row (v : Value) : List RecordCheck :=
  [mapping, name, nameShape, flag .needsDebugVerification, flag .needsDartServiceExtensionProxy,
    flag .responseWrapper, text "description", text "rpcMethod", parameters]
    ++ ofParameters (v.at? "parameters")

/-- What a record with this name is refused for if the check does not
hold. -/
def fault (n : Text) : RecordCheck → RecordFault
  | mapping => .notMapping
  | name => .nameMissing
  | nameShape => .nameShape n
  | flag f => .flagNotBoolean n f
  | text key => .textMissing n key
  | parameters => .parametersNotMapping n
  | parameterName key => .parameterName n key
  | parameterRule param rule => .ruleNotText n param rule.kind

/-- Where a message says that the record stands: at its place in the file
until its name is known, and by its name from then on. -/
def place (source : Text) (index : Int) (n : Text) : RecordCheck → Text
  | mapping => source ++ ": handlers[" ++ intText index ++ "]"
  | name => source ++ ": handlers[" ++ intText index ++ "]"
  | _ => source ++ ": handler '" ++ n ++ "'"

/-- **A row of checks decides a result**: a check that does not hold is
the end of it, and if all hold there is a value. -/
inductive Decides {α : Type} (v : Value) (n : Text) :
    List RecordCheck → Except RecordFault α → Prop
  /-- There is nothing to check. -/
  | value (a : α) : Decides v n [] (.ok a)
  /-- The first check does not hold. -/
  | refused {c : RecordCheck} {cs : List RecordCheck} :
      ¬ c.Holds v → Decides v n (c :: cs) (.error (c.fault n))
  /-- The first check holds, and the others decide. -/
  | next {c : RecordCheck} {cs : List RecordCheck} {x : Except RecordFault α} :
      c.Holds v → Decides v n cs x → Decides v n (c :: cs) x

namespace Decides

variable {α β : Type} {v : Value} {n : Text} {cs ds : List RecordCheck} {x : Except RecordFault α}

/-- One step after the other is decided by the checks of one after those of
the other. -/
theorem bind {f : α → Except RecordFault β} (hx : Decides v n cs x)
    (hf : ∀ a, Decides v n ds (f a)) : Decides v n (cs ++ ds) (x >>= f) := by
  induction hx with
  | value a => exact hf a
  | refused hc => exact .refused hc
  | next hc _ ih => exact .next hc ih

/-- A step that checks nothing leaves the decision as it is. -/
theorem map (hx : Decides v n cs x) (f : α → β) : Decides v n cs (x >>= fun a => pure (f a)) := by
  have hbind := hx.bind fun a => (value (f a) : Decides v n [] (pure (f a)))
  rwa [List.append_nil] at hbind

/-- There is a value just if all checks hold. -/
theorem exists_ok_iff (hx : Decides v n cs x) : (∃ a, x = .ok a) ↔ ∀ c ∈ cs, c.Holds v := by
  induction hx with
  | value a => exact iff_of_true ⟨a, rfl⟩ (List.forall_mem_nil _)
  | refused hc =>
    exact iff_of_false (by simp) fun h => hc (h _ List.mem_cons_self)
  | next hc _ ih => rw [ih, List.forall_mem_cons, and_iff_right hc]

/-- A refusal is for the first check that does not hold. -/
theorem exists_of_error {e : RecordFault} (hx : Decides v n cs x) (he : x = .error e) :
    ∃ before c after, cs = before ++ c :: after ∧ (∀ b ∈ before, b.Holds v) ∧ ¬ c.Holds v
      ∧ e = c.fault n := by
  induction hx with
  | value a => exact absurd he (by simp)
  | refused hc => exact ⟨[], _, _, rfl, List.forall_mem_nil _, hc, (Except.error.inj he).symm⟩
  | next hc _ ih =>
    obtain ⟨before, d, after, rfl, hbefore, hd, hfault⟩ := ih he
    exact ⟨_ :: before, d, after, rfl, List.forall_mem_cons.2 ⟨hc, hbefore⟩, hd, hfault⟩

end Decides

end RecordCheck

namespace Descriptor

open RecordCheck

variable {record : List (Scalar × Value)} {n : Text}

/-! ## The readers of a record -/

/-- A text is read where one is given that shows. -/
theorem shownText?_eq_some_iff {given : Option Value} {t : Text} :
    shownText? given = some t ↔
      given = some (.scalar (.text t)) ∧ ∃ c ∈ t, isBlank c = false := by
  have hshows : ∀ u : Text, (∃ c ∈ u, isBlank c = false) ↔ ¬ u.isBlank = true := by
    intro u
    rw [Text.isBlank, Bool.not_eq_true, List.all_eq_false]
    simp only [Bool.not_eq_true]
  unfold shownText?
  split
  · next u =>
    by_cases hu : u.isBlank = true
    · rw [if_pos hu]
      refine iff_of_false (by simp) ?_
      rintro ⟨hgiven, ht⟩
      obtain rfl := Scalar.text.inj (Value.scalar.inj (Option.some.inj hgiven))
      exact (hshows u).1 ht hu
    · rw [if_neg hu]
      constructor
      · intro h
        obtain rfl := Option.some.inj h
        exact ⟨rfl, (hshows u).2 hu⟩
      · rintro ⟨hgiven, -⟩
        rw [Scalar.text.inj (Value.scalar.inj (Option.some.inj hgiven))]
  · next hother => exact iff_of_false (by simp) fun h => hother t h.1

theorem decides_readFlag (record : List (Scalar × Value)) (n : Text) (f : Flag) :
    Decides (.dict record) n [flag f] (readFlag record n f) := by
  unfold readFlag
  split
  · next h => exact .next (.inl (.inl h)) (.value _)
  · next h => exact .next (.inl (.inr h)) (.value _)
  · next b h => exact .next (.inr ⟨b, h⟩) (.value _)
  · next hnull hbool hgiven =>
    refine .refused ?_
    rintro ((h | h) | ⟨b, h⟩)
    · exact absurd (hgiven.symm.trans h) (by simp)
    · exact hnull (Option.some.inj (hgiven.symm.trans h))
    · exact hbool b (Option.some.inj (hgiven.symm.trans h))

theorem decides_readText (record : List (Scalar × Value)) (n key : Text) :
    Decides (.dict record) n [text key] (readText record n key) := by
  unfold readText
  split
  · next t h => exact .next ⟨t, shownText?_eq_some_iff.1 h⟩ (.value t)
  · next hnone =>
    refine .refused fun ⟨t, ht⟩ => ?_
    have hsome : shownText? (field? record key) = some t := shownText?_eq_some_iff.2 ht
    exact absurd (hnone.symm.trans hsome) (by simp)

/-- The entries of the parameters are checked one by one. -/
theorem decides_readEntries (v : Value) (n : Text) (ps : Parameters) (es : List (Scalar × Value)) :
    Decides v n (es.flatMap ofEntry) (readEntries n ps es) := by
  fun_induction readEntries n ps es with
  | case1 ps => exact .value ps
  | case2 ps param es hparam ih =>
    exact .next ⟨param, rfl, Text.readsAsIdentifier_iff.1 hparam⟩ (.next (.inl rfl) ih)
  | case3 ps param es hparam t ih =>
    exact .next ⟨param, rfl, Text.readsAsIdentifier_iff.1 hparam⟩ (.next (.inr ⟨t, rfl⟩) ih)
  | case4 ps param es hparam rule hnull htext =>
    refine .next ⟨param, rfl, Text.readsAsIdentifier_iff.1 hparam⟩ (.refused ?_)
    rintro (h | ⟨t, h⟩)
    · exact hnull h
    · exact htext t h
  | case5 ps param rule es hparam =>
    refine .refused ?_
    rintro ⟨t, ht, hname⟩
    obtain rfl := Scalar.text.inj ht
    exact hparam (Text.readsAsIdentifier_iff.2 hname)
  | case6 ps key rule es hkey =>
    have hchecks : ofEntry (key, rule) = [parameterName key] := by
      rw [ofEntry]
      exact hkey
    rw [List.flatMap_cons, hchecks]
    refine .refused ?_
    rintro ⟨t, ht, -⟩
    exact hkey t ht

theorem decides_readParameters (record : List (Scalar × Value)) (n : Text) :
    Decides (.dict record) n (.parameters :: ofParameters (field? record "parameters"))
      (readParameters record n) := by
  unfold readParameters
  split
  · next h =>
    rw [h]
    exact .next (.inl (.inl h)) (.value _)
  · next h =>
    rw [h]
    exact .next (.inl (.inr h)) (.value _)
  · next es h =>
    rw [h]
    exact .next (.inr ⟨es, h⟩) (decides_readEntries _ n .empty es)
  · next hnull hdict hgiven =>
    refine .refused ?_
    rintro ((h | h) | ⟨es, h⟩)
    · exact absurd (hgiven.symm.trans h) (by simp)
    · exact hnull (Option.some.inj (hgiven.symm.trans h))
    · exact hdict es (Option.some.inj (hgiven.symm.trans h))

/-- The name that a value has, if it is a text. -/
def nameOf (v : Value) : Text :=
  match v.at? "name" with
  | some (.scalar (.text t)) => t
  | _ => []

/-- **A record is read by making its checks in their order.** -/
theorem decides_ofValue (source : Text) (v : Value) :
    Decides v (nameOf v) (row v) (ofValue source v) := by
  unfold ofValue
  split
  · next record =>
    refine .next ⟨record, rfl⟩ ?_
    split
    · next name hname =>
      obtain ⟨hgiven, hshows⟩ := shownText?_eq_some_iff.1 hname
      have hnameOf : nameOf (.dict record) = name := by
        rw [nameOf, Value.at?, hgiven]
      rw [hnameOf]
      refine .next ⟨name, hgiven, hshows⟩ ?_
      split
      · next hshape =>
        refine .next ⟨name, hgiven, Text.readsAsSnakeCase_iff.1 hshape⟩ ?_
        exact (decides_readFlag record name _).bind fun _ =>
          (decides_readFlag record name _).bind fun _ =>
          (decides_readFlag record name _).bind fun _ =>
          (decides_readText record name _).bind fun _ =>
          (decides_readText record name _).bind fun _ =>
          (decides_readParameters record name).map _
      · next hshape =>
        refine .refused fun ⟨t, ht, hname⟩ => hshape ?_
        obtain rfl := Scalar.text.inj (Value.scalar.inj (Option.some.inj (hgiven.symm.trans ht)))
        exact Text.readsAsSnakeCase_iff.2 hname
    · next hnone =>
      refine .refused fun ⟨t, ht⟩ => ?_
      exact absurd (shownText?_eq_some_iff.2 ht) (hnone t)
  · next hother => exact .refused fun ⟨record, h⟩ => hother record h

/-! ## What a descriptor takes from its record -/

/-- What a flag is: the truth value that is given, or its default. -/
def GivesFlag (given : Option Value) (f : Flag) (b : Bool) : Prop :=
  given = some (.scalar (.bool b)) ∨ IsLeftOut given ∧ b = f.default

/-- The parameter and the rule that an entry gives. Null gives the empty
rule. -/
def GivesRule (e : Scalar × Value) (r : Text × Text) : Prop :=
  e.1 = .text r.1 ∧ (e.2 = .scalar (.text r.2) ∨ e.2 = .null ∧ r.2 = [])

/-- What the parameters are: none, or those of the mapping that is given.
They are in the order of the mapping, where all keys are different. -/
def GivesParameters (given : Option Value) (ps : Parameters) : Prop :=
  IsLeftOut given ∧ ps.entries = []
    ∨ ∃ es rs, given = some (.dict es) ∧ List.Forall₂ GivesRule es rs
      ∧ ps.entries = Entries.ofPairs rs ∧ ((es.map Prod.fst).Nodup → ps.entries = rs)

/-- What a descriptor takes from a record: its texts as they are, the flags
with their defaults, and the parameters. -/
structure TakenFrom (source : Text) (v : Value) (d : Descriptor) : Prop where
  name : v.at? "name" = some (.scalar (.text d.name))
  description : v.at? "description" = some (.scalar (.text d.description))
  rpcMethod : v.at? "rpcMethod" = some (.scalar (.text d.rpcMethod))
  needsDebugVerification :
    GivesFlag (v.at? "needsDebugVerification") .needsDebugVerification d.needsDebugVerification
  needsDartServiceExtensionProxy :
    GivesFlag (v.at? "needsDartServiceExtensionProxy") .needsDartServiceExtensionProxy
      d.needsDartServiceExtensionProxy
  responseWrapper : GivesFlag (v.at? "responseWrapper") .responseWrapper d.responseWrapper
  parameters : GivesParameters (v.at? "parameters") d.parameters
  source : d.source = source

theorem givesFlag_of_readFlag {f : Flag} {b : Bool} (h : readFlag record n f = .ok b) :
    GivesFlag (field? record f.key) f b := by
  unfold readFlag at h
  split at h
  · next hnone => exact .inr ⟨.inl hnone, (Except.ok.inj h).symm⟩
  · next hnull => exact .inr ⟨.inr hnull, (Except.ok.inj h).symm⟩
  · next c hbool => exact .inl (Except.ok.inj h ▸ hbool)
  · exact absurd h (by simp)

theorem field?_of_readText {key t : Text} (h : readText record n key = .ok t) :
    field? record key = some (.scalar (.text t)) := by
  unfold readText at h
  split at h
  · next u hu => exact Except.ok.inj h ▸ (shownText?_eq_some_iff.1 hu).1
  · exact absurd h (by simp)

/-- The entries that are read are put behind those that were there. -/
theorem entries_of_readEntries {ps qs : Parameters} {es : List (Scalar × Value)}
    (h : readEntries n ps es = .ok qs) :
    ∃ rs, List.Forall₂ GivesRule es rs
      ∧ qs.entries = rs.foldl (fun es r => Entries.put r.1 r.2 es) ps.entries := by
  fun_induction readEntries n ps es with
  | case1 ps =>
    obtain rfl := Except.ok.inj h
    exact ⟨[], .nil, rfl⟩
  | case2 ps param es hparam ih =>
    obtain ⟨rs, hrs, hentries⟩ := ih h
    exact ⟨(param, []) :: rs, .cons ⟨rfl, .inr ⟨rfl, rfl⟩⟩ hrs, hentries⟩
  | case3 ps param es hparam t ih =>
    obtain ⟨rs, hrs, hentries⟩ := ih h
    exact ⟨(param, t) :: rs, .cons ⟨rfl, .inl rfl⟩ hrs, hentries⟩
  | case4 => exact absurd h (by simp)
  | case5 => exact absurd h (by simp)
  | case6 => exact absurd h (by simp)

/-- Entries with different keys give different parameters. -/
theorem nodup_of_givesRule {es : List (Scalar × Value)} {rs : List (Text × Text)}
    (h : List.Forall₂ GivesRule es rs) (hes : (es.map Prod.fst).Nodup) :
    (rs.map Prod.fst).Nodup := by
  have hkeys : es.map Prod.fst = (rs.map Prod.fst).map Scalar.text := by
    clear hes
    induction h with
    | nil => rfl
    | cons he _ ih => rw [List.map_cons, List.map_cons, List.map_cons, he.1, ih]
  rw [hkeys] at hes
  exact hes.of_map _

theorem givesParameters_of_readParameters {ps : Parameters}
    (h : readParameters record n = .ok ps) : GivesParameters (field? record "parameters") ps := by
  unfold readParameters at h
  split at h
  · next hnone => exact .inl ⟨.inl hnone, by rw [← Except.ok.inj h]; rfl⟩
  · next hnull => exact .inl ⟨.inr hnull, by rw [← Except.ok.inj h]; rfl⟩
  · next es hdict =>
    obtain ⟨rs, hrs, hentries⟩ := entries_of_readEntries h
    have hpairs : ps.entries = Entries.ofPairs rs := hentries
    refine .inr ⟨es, rs, hdict, hrs, hpairs, fun hes => ?_⟩
    rw [hpairs, Entries.ofPairs_of_nodup (nodup_of_givesRule hrs hes)]
  · exact absurd h (by simp)

/-- **A descriptor takes what its record gives.** -/
theorem takenFrom_of_ofValue {source : Text} {v : Value} {d : Descriptor}
    (h : ofValue source v = .ok d) : TakenFrom source v d := by
  obtain ⟨record, rfl, hsource, hname, -, hdebug, hproxy, hwrapper, hdescription, hrpcMethod,
    hparameters⟩ := ofValue_cases h
  exact {
    name := (shownText?_eq_some_iff.1 hname).1
    description := field?_of_readText hdescription
    rpcMethod := field?_of_readText hrpcMethod
    needsDebugVerification := givesFlag_of_readFlag hdebug
    needsDartServiceExtensionProxy := givesFlag_of_readFlag hproxy
    responseWrapper := givesFlag_of_readFlag hwrapper
    parameters := givesParameters_of_readParameters hparameters
    source := hsource }

/-! ## How a record is refused -/

/-- A check fails without a message just if it is of a name that is an
integer too long to be shown. -/
theorem message?_fault_eq_none_iff {source : Text} {index : Int} {c : RecordCheck} :
    (c.fault n).message? source index = none ↔
      ∃ i : Int, c = .parameterName (.int i) ∧ Nat.pow 10 digitLimit ≤ i.natAbs := by
  rw [RecordFault.message?_eq_none_iff]
  constructor
  · rintro ⟨name, i, hfault, hlong⟩
    cases c with
    | parameterName key =>
      obtain ⟨-, rfl⟩ := RecordFault.parameterName.inj hfault
      exact ⟨i, rfl, hlong⟩
    | _ => exact absurd hfault (by simp [fault])
  · rintro ⟨i, rfl, hlong⟩
    exact ⟨n, i, rfl, hlong⟩

/-- **A message starts with the place of the record.** -/
theorem place_prefix_message {source : Text} {index : Int} {c : RecordCheck} {m : Text}
    (h : (c.fault n).message? source index = some m) : c.place source index n <+: m := by
  have one {s t : Text} : s <+: s ++ t := List.prefix_append s t
  cases c with
  | mapping => exact Option.some.inj h ▸ one
  | name => exact Option.some.inj h ▸ one
  | nameShape => exact Option.some.inj h ▸ one
  | flag f => exact Option.some.inj h ▸ one.trans (one.trans one)
  | text key => exact Option.some.inj h ▸ one.trans (one.trans one)
  | parameters => exact Option.some.inj h ▸ one
  | parameterName key =>
    obtain ⟨shown, -, rfl⟩ := Option.map_eq_some_iff.1 h
    exact one.trans one
  | parameterRule param rule =>
    exact Option.some.inj h ▸ one.trans (one.trans (one.trans one))

/-- **A record is read as a descriptor just if all of its checks hold**, and
the descriptor takes what it gives. **Otherwise it is refused for the first
check that does not hold**, with a message that starts with the place of
the record, unless that is a check of a name that is an integer too long to
be shown. -/
theorem ofValue_schema (source : Text) (v : Value) (index : Int) :
    ((∃ d, ofValue source v = .ok d) ↔ ∀ c ∈ row v, c.Holds v)
    ∧ (∀ d, ofValue source v = .ok d → TakenFrom source v d)
    ∧ ∀ e, ofValue source v = .error e →
        ∃ before c after, row v = before ++ c :: after ∧ (∀ b ∈ before, b.Holds v)
          ∧ ¬ c.Holds v ∧ e = c.fault (nameOf v)
          ∧ (e.message? source index = none ↔
              ∃ i : Int, c = .parameterName (.int i) ∧ Nat.pow 10 digitLimit ≤ i.natAbs)
          ∧ ∀ m, e.message? source index = some m → c.place source index (nameOf v) <+: m := by
  have hdecides := decides_ofValue source v
  refine ⟨hdecides.exists_ok_iff, fun d h => takenFrom_of_ofValue h, fun e h => ?_⟩
  obtain ⟨before, c, after, hrow, hbefore, hc, rfl⟩ := hdecides.exists_of_error h
  exact ⟨before, c, after, hrow, hbefore, hc, rfl, message?_fault_eq_none_iff,
    fun m => place_prefix_message⟩

/-- A record with one parameter, whose name is an integer. -/
def numberedRecord (i : Int) : List (Scalar × Value) :=
  [(.text "name", .scalar (.text "get_vm")),
    (.text "description", .scalar (.text "Gets the VM.")),
    (.text "rpcMethod", .scalar (.text "getVM")),
    (.text "parameters", .dict [(.int i, .scalar (.text []))])]

theorem ofValue_numberedRecord (i : Int) :
    ofValue "core.yaml" (.dict (numberedRecord i)) = .error (.parameterName "get_vm" (.int i)) :=
  rfl

/-- **A record is refused without a message** for a parameter whose name is
an integer of 4335 digits. -/
theorem refused_without_message : ∃ e,
    ofValue "core.yaml" (.dict (numberedRecord (Int.ofNat (Nat.pow 16 3600)))) = .error e
      ∧ e.message? "core.yaml" 0 = none := by
  have hlong : Nat.pow 10 digitLimit ≤ (Int.ofNat (Nat.pow 16 3600)).natAbs := by decide +kernel
  exact ⟨_, ofValue_numberedRecord _, RecordFault.message?_eq_none_iff.2 ⟨_, _, rfl, hlong⟩⟩

end Descriptor

end HandlerGen
