/-
Failures under the lenient policy.

No request fails a sort by what it asks for. A sort fails for what the request is handed to:
the configuration, the mapping of the models, and the custom orderings.

* `LooksUp`, `lookup_mem_compile_iff`: the specifications for which the relations are looked
  at;
* `Gate.refuseAll_lenient`, `compile_lenient_result`: the lenient policy refuses without a
  failure, and has the plan of the request;
* `compile_error_iff`: it fails exactly if a custom ordering is missed, or if relations are
  looked at that cannot be resolved;
* `lenient_failures`: a sort fails with nothing else than that, than the failure of the
  custom ordering that it calls, or than a relation that has lost its attribute.
-/
import QueryOrder.Proofs.Calling
import QueryOrder.Proofs.Origin
import QueryOrder.Proofs.Outcome
import QueryOrder.Scope.Act

namespace QueryOrder

/-! ### The lenient gate -/

namespace Gate

variable {g : Gate}

/-- The lenient policy refuses without a failure. -/
lemma refuseAll_lenient (hpolicy : g.policy = .lenient) (hsink : g.sink ≠ .interrupting)
    (rs : List Refusal) : (g.refuseAll rs).result = .ok () := by
  induction rs with
  | nil => rfl
  | cons r rest ih =>
      have hfirst : (g.refuse r).result = .ok () := by
        rw [refuse, hpolicy]
        rcases hsink' : g.sink with _ | _ | _ | _ | _
        · rfl
        · rfl
        · rfl
        · rfl
        · exact absurd hsink' hsink
      rw [refuseAll, Traced.bind_of_ok hfirst]
      exact ih

/-- To refuse a field the relations are not looked at. -/
lemma lookup_notMem_violation (g : Gate) (cause : Violation) (template field : String)
    (critical : Bool) (context : List (String × Value)) :
    Event.lookup ∉ (g.violation cause template field critical context).events := by
  rw [violation, enforce]
  rcases g.policy with _ | _
  · dsimp only
    split <;> exact List.not_mem_nil
  · rcases g.sink with _ | _ | _ | _ | _ <;> simp [Sink.warn, Traced.emit, Traced.fail]

end Gate

namespace Compile

variable {e : Entity} {a : AllowList} {g : Gate} {raw : Value}

/-- The lenient policy comes to the plan of the request. -/
lemma compile_lenient_result (hpolicy : g.policy = .lenient) (hsink : g.sink ≠ .interrupting) :
    (compile e a g raw).result = (Request.ofValue raw).plan e a := by
  rw [(compile_alike g raw).result, serve,
    Traced.bind_of_ok (Gate.refuseAll_lenient hpolicy hsink _)]
  rfl

/-! ### Looks at the relations -/

/-- A specification has the relations looked at: it has no custom ordering, and an allowed
field of a related table. -/
structure LooksUp (a : AllowList) (raw : Value) : Prop where
  plain : ∀ t ∈ tokens raw, Field.isCustom t.field = false
  related : ∃ t ∈ tokens raw, t.field ∈ a.fields ∧
    ∃ relation column, Field.Splits t.field relation column

/-- The relations are looked at for an allowed field of a related table. -/
lemma lookup_mem_fragment_iff {t : Token} :
    Event.lookup ∈ (fragment e a g t.field t.direction).events ↔
      t.field ∈ a.fields ∧ ∃ relation column, Field.Splits t.field relation column := by
  rw [fragment]
  by_cases hallowed : a.allows t.field = true
  · rw [if_pos hallowed]
    have hfield := AllowList.allows_iff.mp hallowed
    rcases hc : Field.ofColumn t.field with name | ⟨relation, column⟩ | name
    · have hplain := (Field.ofColumn_eq_column_iff.mp hc).2
      constructor
      · intro h
        cases h
      · rintro ⟨-, relation, column, hsplits⟩
        exact absurd hsplits.eq (hplain relation column)
    · have hlookup : Event.lookup ∈ (Traced.emit .lookup).events := List.mem_cons_self
      constructor
      · intro _
        exact ⟨hfield, relation, column, Field.ofColumn_eq_related_iff.mp hc⟩
      · intro _
        exact Traced.mem_events_bind.mpr (.inl hlookup)
    · exact absurd hc (Field.ofColumn_ne_custom _ _)
  · rw [if_neg hallowed]
    constructor
    · intro h
      rcases Traced.mem_events_bind.mp h with h | ⟨-, -, h⟩
      · exact absurd h (g.lookup_notMem_violation _ _ _ _ _)
      · cases h
    · rintro ⟨hfield, -⟩
      exact absurd (AllowList.allows_iff.mpr hfield) hallowed

/-- Under the lenient policy every token has its turn. -/
lemma lookup_mem_fragments_iff (hpolicy : g.policy = .lenient) (hsink : g.sink ≠ .interrupting)
    {tokens : List Token} :
    Event.lookup ∈ (fragments e a g tokens).events ↔
      ∃ t ∈ tokens, t.field ∈ a.fields ∧
        ∃ relation column, Field.Splits t.field relation column := by
  induction tokens with
  | nil => simp [fragments]
  | cons t rest ih =>
      have hfirst : ∃ first, (fragment e a g t.field t.direction).result = .ok first := by
        rw [(fragment_alike g t).result,
          Traced.bind_of_ok (Gate.refuseAll_lenient hpolicy hsink _)]
        exact ⟨_, rfl⟩
      obtain ⟨first, hfirst⟩ := hfirst
      have hothers : Event.lookup ∈ (fragments e a g rest >>= fun others =>
          pure (first.toList ++ others)).events ↔ Event.lookup ∈ (fragments e a g rest).events := by
        rw [Traced.mem_events_bind]
        simp
      have hrest : Event.lookup ∈ (fragments e a g (t :: rest)).events ↔
          Event.lookup ∈ (fragment e a g t.field t.direction).events ∨
            Event.lookup ∈ (fragments e a g rest).events := by
        rw [fragments, Traced.mem_events_bind, hfirst]
        simp only [Except.ok.injEq, exists_eq_left', hothers]
      rw [hrest, lookup_mem_fragment_iff, ih]
      simp

/-- A specification is rejected without a look at the relations. -/
lemma lookup_notMem_rejectCombined {spec : String} :
    Event.lookup ∉ (rejectCombined g spec).events := by
  intro h
  rcases Traced.mem_events_bind.mp h with h | ⟨-, -, h⟩
  · exact g.lookup_notMem_violation _ _ _ _ _ h
  · cases h

/-- A custom ordering is found without a look at the relations. -/
lemma lookup_notMem_dispatch {o : Owner} {spec : String} :
    Event.lookup ∉ (dispatch o a g spec).events := by
  rw [dispatch]
  dsimp only
  split
  · exact lookup_notMem_rejectCombined
  · split
    · intro h
      rcases Traced.mem_events_bind.mp h with h | ⟨scope, -, h⟩
      · cases h
      · rcases Traced.mem_events_bind.mp h with h | ⟨-, -, h⟩
        · cases List.mem_singleton.mp h
        · cases h
    · intro h
      rcases Traced.mem_events_bind.mp h with h | ⟨-, -, h⟩
      · exact g.lookup_notMem_violation _ _ _ _ _ h
      · cases h

/-- What has the relations looked at is not blank. -/
lemma LooksUp.not_blank (h : LooksUp a raw) : ¬ isBlank raw = true := by
  intro hblank
  have hnil : tokens raw = [] := by
    rcases hraw : raw.text? with _ | spec
    · rw [tokens, hraw]
    · rw [tokens, hraw]
      exact parse_of_isBlank hraw hblank
  obtain ⟨t, ht, -⟩ := h.related
  rw [hnil] at ht
  cases ht

/-- What has the relations looked at is no custom ordering as a whole. -/
lemma LooksUp.not_custom {spec : String} (hraw : raw.text? = some spec) (h : LooksUp a raw) :
    ¬ Field.isCustom (Text.trimmed spec) = true := by
  have htokens : tokens raw = Token.parse spec := by rw [tokens, hraw]
  exact Token.not_isCustom_trimmed (htokens ▸ h.plain)

/-- For a text the relations are looked at exactly if its tokens ask for it. -/
lemma lookup_mem_compileText_iff (hpolicy : g.policy = .lenient) (hsink : g.sink ≠ .interrupting)
    {spec : String} (hraw : raw.text? = some spec) :
    Event.lookup ∈ (compileText e a g raw spec).events ↔ LooksUp a raw := by
  have htokens : tokens raw = Token.parse spec := by rw [tokens, hraw]
  rw [compileText]
  by_cases hcustom : Field.isCustom (Text.trimmed spec) = true
  · rw [if_pos hcustom]
    constructor
    · exact fun h => absurd h lookup_notMem_dispatch
    · exact fun h => absurd hcustom (h.not_custom hraw)
  · rw [if_neg hcustom]
    dsimp only
    by_cases hany : (Token.parse spec).any (fun t => Field.isCustom t.field) = true
    · rw [if_pos hany]
      obtain ⟨t, ht, hfield⟩ := List.any_eq_true.mp hany
      constructor
      · exact fun h => absurd h lookup_notMem_rejectCombined
      · intro h
        rw [h.plain t (htokens ▸ ht)] at hfield
        cases hfield
    · rw [if_neg hany]
      have hplain : ∀ t ∈ tokens raw, Field.isCustom t.field = false := by
        rw [htokens]
        simpa using hany
      have hrecord : ∀ p : Plan, Event.lookup ∉
          ((Traced.emit (.debug .compiler (record e raw p)) >>= fun _ => pure p) :
            Traced Plan).events := by
        intro p h
        rcases Traced.mem_events_bind.mp h with h | ⟨-, -, h⟩
        · cases List.mem_singleton.mp h
        · cases h
      rw [Traced.mem_events_bind, lookup_mem_fragments_iff hpolicy hsink, ← htokens]
      constructor
      · rintro (h | ⟨fs, -, h⟩)
        · exact ⟨hplain, h⟩
        · exact absurd h (hrecord _)
      · exact fun h => .inl h.related

/-- Under the lenient policy the relations are looked at for no other specification. -/
lemma lookup_mem_compile_iff (hpolicy : g.policy = .lenient) (hsink : g.sink ≠ .interrupting) :
    Event.lookup ∈ (compile e a g raw).events ↔ LooksUp a raw := by
  rw [compile]
  rcases hraw : raw.text? with _ | spec
  · have hblank : isBlank raw = true := by rw [isBlank, hraw]
    constructor
    · intro h
      cases h
    · exact fun h => absurd hblank h.not_blank
  · dsimp only
    by_cases hblank : isBlank raw = true
    · rw [if_pos hblank]
      constructor
      · intro h
        cases h
      · exact fun h => absurd hblank h.not_blank
    · rw [if_neg hblank]
      exact lookup_mem_compileText_iff hpolicy hsink hraw

/-- Who has a relation to join has looked at the relations. -/
lemma looksUp_of_joins {p : Plan} (h : (compile e a g raw).result = .ok p)
    (hjoins : p.joins ≠ []) : LooksUp a raw := by
  obtain ⟨name, hname⟩ := List.exists_mem_of_ne_nil _ hjoins
  rw [joins_eq h] at hname
  obtain ⟨-, f, hf, hjoin⟩ := Fragment.mem_joins_iff.mp hname
  obtain ⟨hplain, t, hmem, ht⟩ := exists_granted h hf
  cases granted?_eq_some_iff.mp ht ▸ ruled e a t with
  | related hfield hsplits hsome => exact ⟨hplain, t, hmem, hfield, _, _, hsplits⟩
  | column hfield hnone => cases hjoin

end Compile

/-- To apply a plan the relations are looked at only if some are joined. -/
lemma Plan.joins_of_lookup [Orderings] {e : Entity} {p : Plan} {s : Statement}
    (h : Event.lookup ∈ (p.apply e s).events) : p.joins ≠ [] := by
  intro hjoins
  have hadded : ∀ result : Except Failure Statement, Event.lookup ∉
      ((liftM result : Traced Statement) >>= fun t =>
        pure (Reply.statement (t.orderBy (.text p.orderBy)))).events := by
    intro result
    rcases result with failure | t <;> exact List.not_mem_nil
  rw [Plan.apply] at h
  rcases hcustom : p.custom with _ | call
  · rw [hcustom] at h
    dsimp only at h
    split at h
    · cases h
    · simp only [hjoins, List.isEmpty_nil, Bool.not_true, Bool.false_eq_true, if_false] at h
      exact hadded _ h
  · rw [hcustom] at h
    cases List.mem_singleton.mp h

/-- A plan fails to be applied only if its custom ordering fails, or if one of its
relations cannot be joined. -/
lemma Plan.apply_eq_error [Orderings] {e : Entity} {p : Plan} {s : Statement}
    {failure : Failure} (h : (p.apply e s).result = .error failure) :
    (∃ call, p.custom = some call ∧ call.scope.run s call.direction = .error failure) ∨
      ∃ relation ∈ p.joins, e.joinOf relation = .error failure := by
  rcases hcustom : p.custom with _ | call
  · right
    by_cases hfragments : p.fragments = []
    · rw [apply_of_empty hcustom hfragments] at h
      cases h
    · rw [(apply_of_fragments hcustom hfragments).result] at h
      rcases hjoined : joinAll e p.joins s with failure' | t
      · rw [hjoined] at h
        obtain rfl : failure' = failure := Except.error.inj h
        exact exists_of_joinAll_eq_error hjoined
      · rw [hjoined] at h
        cases h
  · rw [apply_of_call hcustom] at h
    exact .inl ⟨call, rfl, h⟩

namespace Session

variable {session : Session} {c : Compiler} {e : Entity} {raw : Value} {failure : Failure}

/-- A specification fails to compile under the lenient policy exactly if it misses a custom
ordering, or if it has relations looked at that cannot be resolved. -/
lemma compile_error_iff (he : session.models.entity c.model = .ok e)
    (hpolicy : c.gate.policy = .lenient) (hsink : c.gate.sink ≠ .interrupting) :
    (session.outcome (session.models.compile c raw)).result = .error failure ↔
      (∃ name, Misses e.toOwner c.allowed raw name ∧
        failure = .missingScope e.name name ("sorted_by_" ++ Field.suffix name)) ∨
      Compile.LooksUp c.allowed raw ∧ session.mappingFault? = some failure := by
  rw [outcome_eq_error_iff, Registry.compile_of_entity he,
    Compile.lookup_mem_compile_iff hpolicy hsink, Compile.compile_lenient_result hpolicy hsink,
    Request.plan_eq_error_iff]
  constructor
  · rintro (⟨hmapping, hlooks⟩ | ⟨-, hmisses⟩)
    · exact .inr ⟨hlooks, hmapping⟩
    · exact .inl hmisses
  · rintro (⟨name, hmisses, hfailure⟩ | ⟨hlooks, hmapping⟩)
    · -- what is summoned is a custom ordering, for which nothing is looked at
      have hnot : ¬ Compile.LooksUp c.allowed raw := by
        intro hlooks
        obtain ⟨spec, d, hspec, hsummons⟩ := hmisses.summons
        obtain ⟨-, hparse, hcustom⟩ := Request.ofText_eq_custom (summons_iff.mp hsummons)
        have hmem : ⟨name, d⟩ ∈ Compile.tokens raw := by
          rw [Compile.tokens, hspec]
          dsimp only
          rw [hparse]
          exact List.mem_cons_self
        have hplain : Field.isCustom name = false := hlooks.plain ⟨name, d⟩ hmem
        rw [hplain] at hcustom
        cases hcustom
      exact .inr ⟨.inr hnot, name, hmisses, hfailure⟩
    · exact .inl ⟨hmapping, hlooks⟩

/-- A sort fails under the lenient policy as its specification does, or as its plan does when
it is applied. -/
lemma failure_of_apply [Orderings] (he : session.models.entity c.model = .ok e)
    (hpolicy : c.gate.policy = .lenient) (hsink : c.gate.sink ≠ .interrupting)
    {given : Option Statement}
    (h : (session.outcome (session.models.apply c raw given)).result = .error failure) :
    (session.outcome (session.models.compile c raw)).result = .error failure ∨
      ∃ p, (session.models.compile c raw).result = .ok p ∧
        (p.apply e (given.getD (.all e.table))).result = .error failure := by
  have hcompiled := Registry.compile_of_entity he raw
  rw [outcome_eq_error_iff, Registry.apply_of_entity he raw given] at h
  rcases h with ⟨hmapping, hlookup⟩ | ⟨hgood, hfails⟩
  · -- the relations were looked at when the specification was compiled
    have hlooks : Compile.LooksUp c.allowed raw := by
      rcases Traced.mem_events_bind.mp hlookup with hlookup | ⟨p, hp, hlookup⟩
      · rw [hcompiled] at hlookup
        exact (Compile.lookup_mem_compile_iff hpolicy hsink).mp hlookup
      · rw [hcompiled] at hp
        exact Compile.looksUp_of_joins hp (Plan.joins_of_lookup hlookup)
    exact .inl ((compile_error_iff he hpolicy hsink).mpr (.inr ⟨hlooks, hmapping⟩))
  · rcases Traced.result_bind_eq_error_iff.mp hfails with hfails | hfails
    · left
      rw [outcome_eq_error_iff]
      refine .inr ⟨hgood.imp_right fun hnone hlookup => hnone ?_, hfails⟩
      exact Traced.mem_events_bind.mpr (.inl hlookup)
    · exact .inr hfails

/-- Under the lenient policy a specification fails to compile exactly if it misses a custom
ordering, or if it has relations looked at that cannot be resolved. A sort by it fails with
nothing else than that, than the failure of the one custom ordering that it calls, or than
a relation whose attribute is no longer one. Under either policy, every relation that is
to be joined is one of the model. -/
theorem lenient_failures [Orderings] (he : session.models.entity c.model = .ok e)
    (hpolicy : c.gate.policy = .lenient) (hsink : c.gate.sink ≠ .interrupting) (raw : Value)
    (given : Option Statement) (failure : Failure) :
    let base := given.getD (.all e.table)
    let compiled := session.models.compile c raw
    let applied := session.models.apply c raw given
    ((session.outcome compiled).result = .error failure ↔
      (∃ name, Misses e.toOwner c.allowed raw name ∧
        failure = .missingScope e.name name ("sorted_by_" ++ Field.suffix name)) ∨
      Compile.LooksUp c.allowed raw ∧ session.mappingFault? = some failure) ∧
    ((session.outcome applied).result = .error failure →
      (session.outcome compiled).result = .error failure ∨
      (∃ call, Calls e.toOwner c.allowed raw call ∧
        applied.calls = [(call.scope, call.direction, base)] ∧
        call.scope.run base call.direction = .error failure) ∨
      ∃ p relation, compiled.result = .ok p ∧ relation ∈ p.joins ∧
        Displaced session.models c.model e.name relation failure) ∧
    ∀ gate p, (session.models.compile { c with gate } raw).result = .ok p →
      ∀ relation ∈ p.joins, e.joinOf relation ≠ .error (.missingName relation) := by
  intro base compiled applied
  refine ⟨compile_error_iff he hpolicy hsink, fun h => ?_, fun gate p hp relation hmem => ?_⟩
  · rcases failure_of_apply he hpolicy hsink h with hfails | ⟨p, hp, hfails⟩
    · exact .inl hfails
    · right
      have hplan : (Compile.compile e c.allowed c.gate raw).result = .ok p := by
        rw [← Registry.compile_of_entity he]
        exact hp
      rcases Plan.apply_eq_error hfails with ⟨call, hcall, hrun⟩ | ⟨relation, hmem, hjoin⟩
      · have hcalls := Compile.calls_of_compile hplan hcall
        exact .inl ⟨call, hcalls, (Registry.apply_of_calls he hcalls given).calls, hrun⟩
      · have hrelation := Compile.hasRelation_of_mem_joins hplan hmem
        exact .inr ⟨p, relation, hp, hmem, displaced_of_joinOf he hrelation hjoin⟩
  · intro hjoin
    rw [Registry.compile_of_entity (c := { c with gate }) he] at hp
    have hrelation : e.hasRelation relation = true := Compile.hasRelation_of_mem_joins hp hmem
    cases displaced_of_joinOf he hrelation hjoin

/-- An allowed custom ordering that nothing stands for. No other failure comes of it, and
what it fails with does not come of a column. -/
theorem lenient_failures_books :
    let _ : Orderings := .ofActs []
    let book : Model := {
      name := "Book", title := "Book", parent := none, mapped := true, sortable := false
      table := "books", bases := [], columns := [⟨"id", none⟩], homes := [("id", "books")]
      members := [("id", .column ⟨"id", none⟩)]
      attributes := [("id", .column ⟨"id", none⟩), ("sorted_by_rank", .value (.int 1))] }
    let session : Session := .start [book]
    let c : Compiler := ⟨"Book", ⟨["c_rank", "id"], []⟩, .lenient, .broken⟩
    let missing : Failure := .missingScope "Book" "c_rank" "sorted_by_rank"
    (session.outcome (session.models.compile c (.text " c_rank :desc"))).result = .error missing ∧
      ∀ failure, (session.outcome (session.models.compile c (.text "id,c_rank"))).result
        ≠ .error failure := by
  intro _ book session c missing
  let e : Entity := ⟨⟨"Book", session.models.attributes "Book"⟩, .plain "books" ["id"], []⟩
  have he : session.models.entity c.model = .ok e := rfl
  have hsink : c.gate.sink ≠ .interrupting := by decide
  have hsummons : Summons " c_rank :desc" "c_rank" .descending := by
    rw [summons_iff_split]
    decide +kernel
  have hmisses : Misses e.toOwner c.allowed (.text " c_rank :desc") "c_rank" := by
    refine ⟨⟨_, _, rfl, hsummons⟩, List.mem_cons_self, fun scope hanswers => ?_⟩
    have hnone : Compile.resolve? e.toOwner c.allowed "c_rank" = none := rfl
    rw [Compile.resolve?_eq_some_iff.mpr hanswers] at hnone
    cases hnone
  refine ⟨?_, fun failure hfails => ?_⟩
  · exact (lenient_failures he rfl hsink _ none missing).1.mpr (.inl ⟨_, hmisses, rfl⟩)
  · rcases (lenient_failures he rfl hsink _ none failure).1.mp hfails with
      ⟨name, hmisses, -⟩ | ⟨-, hmapping⟩
    · -- a text with a comma summons nothing
      obtain ⟨spec, d, hspec, hsummons⟩ := hmisses.summons
      obtain rfl : "id,c_rank" = spec := Option.some.inj hspec
      exact absurd (summons_iff_split.mp hsummons).1 (by decide +kernel)
    · cases hmapping

/-- A relation whose attribute is overwritten in a session fails a sort under the lenient policy,
although the specification compiles and no custom ordering is called. Where the relations have been
looked at already and cannot be resolved, since one is over a column that there is not, the
specification does not even compile. -/
theorem overwritten_relation_fails :
    let _ : Orderings := .ofActs []
    let writerClass : Declaration :=
      ⟨"Author", .root false, some "authors", [⟨"name", none⟩], [], none⟩
    let bookClass (key : String) : Declaration :=
      ⟨"Book", .root false, some "books", [⟨"author_id", some "authors"⟩],
        [⟨"author", "Author", key, false⟩], none⟩
    let models (key : String) : Registry :=
      ((Registry.declareModel [] writerClass).bind fun writers =>
        writers.declareModel (bookClass key)).toOption.getD []
    let c : Compiler := ⟨"Book", ⟨["author__name"], []⟩, .lenient, .recording⟩
    let raw := Value.text "author__name"
    let session := ((start (models "author_id")).step (.setAttribute "Book" "author" (.int 5))).2
    let setup : Setup := ⟨some (.allowList c.allowed), .null, .recording⟩
    let broken := ((start (models "writer_id")).step (.compile (.made "Book" setup) raw)).2
    let compiled := session.outcome (session.models.compile c raw)
    let applied := session.outcome (session.models.apply c raw none)
    (∀ failure, compiled.result ≠ .error failure) ∧
      applied.result = .error (.shape (.noAttribute "int" "of_type")) ∧
      applied.calls = [] ∧
      (broken.outcome (broken.models.compile c raw)).result =
        .error (.declaration .unresolved) := by
  intro _ writerClass bookClass models c raw session setup broken compiled applied
  have hcompiled : compiled.result
      = .ok ⟨["author"], [⟨"author.name ASC NULLS LAST", some "author"⟩], none⟩ := by decide +kernel
  have happlied : applied.failure? = some (.shape (.noAttribute "int" "of_type")) := by
    decide +kernel
  have hbroken : (broken.outcome (broken.models.compile c raw)).failure? =
      some (.declaration .unresolved) := by
    decide +kernel
  refine ⟨fun failure h => ?_, Traced.failure?_eq_some_iff.mp happlied,
    List.length_eq_zero_iff.mp (by decide +kernel), Traced.failure?_eq_some_iff.mp hbroken⟩
  rw [hcompiled] at h
  cases h

end Session

end QueryOrder
