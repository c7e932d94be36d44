/-
Specifications with a comma between them.

A comma keeps two specifications apart: each is compiled on its own, and the second adds to
the first. Neither may have a custom ordering in it, which has to be all of a specification.

* `Plan.append`: an order by columns with another one after it
  (`Plan.ofFragments_append`);
* `fragments_append`: tokens that follow one another are ruled on one after the other;
* `compile_of_plain`: without a custom ordering, to compile a text is to make the fragments
  of its tokens;
* `compile_append`: to compile two texts with a comma between them is to compile the first
  and then the second, under every gate;
* `comma_composes`: what this comes to under the two policies.
-/
import QueryOrder.Proofs.Plan
import QueryOrder.Proofs.Request

namespace QueryOrder

/-! ### Plans one after the other -/

/-- Fragments that come after others add the relations that those do not need. -/
lemma Fragment.joins_append (fs gs : List Fragment) :
    joins (fs ++ gs) = joins fs ++ (joins gs).filter fun name => !(joins fs).contains name := by
  rw [joins, List.filterMap_append, List.filter_append]
  exact eraseDups_append_filter _ _

/-- An order by columns with another one after it. What is joined already is not joined
again. -/
def Plan.append (p q : Plan) : Plan :=
  ⟨p.joins ++ q.joins.filter fun name => !p.joins.contains name, p.fragments ++ q.fragments, none⟩

lemma Plan.ofFragments_append (fs gs : List Fragment) :
    ofFragments (fs ++ gs) = (ofFragments fs).append (ofFragments gs) := by
  rw [ofFragments, Fragment.joins_append]
  rfl

namespace Compile

variable {e : Entity} {a : AllowList} {g : Gate}

/-! ### Texts without a custom ordering -/

/-- Tokens that follow one another are ruled on one after the other. -/
lemma fragments_append (ts us : List Token) :
    fragments e a g (ts ++ us) =
      fragments e a g ts >>= fun fs => fragments e a g us >>= fun gs => pure (fs ++ gs) := by
  induction ts with
  | nil => simp only [fragments, List.nil_append, pure_bind, bind_pure]
  | cons t ts ih =>
      simp only [List.cons_append, fragments, ih, bind_assoc, pure_bind, List.append_assoc]

/-- Without a custom ordering, to compile a text is to make the fragments of its tokens. -/
lemma compile_of_plain {raw : Value} {spec : String} (hraw : raw.text? = some spec)
    (hplain : ∀ t ∈ Token.parse spec, Field.isCustom t.field = false) :
    (compile e a g raw).unrecorded =
      (fragments e a g (Token.parse spec) >>= fun fs => pure (Plan.ofFragments fs)).unrecorded := by
  rw [compile, hraw]
  dsimp only
  by_cases hblank : isBlank raw = true
  · rw [if_pos hblank, parse_of_isBlank hraw hblank]
    rfl
  · have hwhole : ¬ Field.isCustom (Text.trimmed spec) = true :=
      Token.not_isCustom_trimmed hplain
    have hany : ¬ ((Token.parse spec).any fun t => Field.isCustom t.field) = true := by
      simpa using hplain
    rw [if_neg hblank, compileText, if_neg hwhole]
    dsimp only
    rw [if_neg hany, Traced.unrecorded_bind, Traced.unrecorded_bind]
    simp only [Traced.unrecorded_emit]

/-! ### Two texts with a comma between them -/

/-- To compile two texts with a comma between them is to compile the first and then the
second, and to put the one plan after the other. -/
lemma compile_append {raw₁ raw₂ : Value} {first second : String}
    (hraw₁ : raw₁.text? = some first) (hraw₂ : raw₂.text? = some second)
    (hfirst : ∀ t ∈ Token.parse first, Field.isCustom t.field = false)
    (hsecond : ∀ t ∈ Token.parse second, Field.isCustom t.field = false) :
    (compile e a g (.text (first ++ "," ++ second))).unrecorded =
      (compile e a g raw₁ >>= fun p =>
        compile e a g raw₂ >>= fun q => pure (p.append q)).unrecorded := by
  have hwhole : ∀ t ∈ Token.parse (first ++ "," ++ second), Field.isCustom t.field = false := by
    intro t ht
    rw [Token.parse_append] at ht
    exact (List.mem_append.mp ht).elim (hfirst t) (hsecond t)
  rw [compile_of_plain rfl hwhole, Token.parse_append, fragments_append]
  simp only [Traced.unrecorded_bind, Traced.unrecorded_pure, compile_of_plain hraw₁ hfirst,
    compile_of_plain hraw₂ hsecond, bind_assoc, pure_bind, Plan.ofFragments_append]

/-- A value compiles to what two others do when they are compiled one after the other. -/
structure Follows (e : Entity) (a : AllowList) (raw₁ raw₂ raw : Value) : Prop where
  /-- Under every gate the second is compiled unless the first fails, and then the one plan is
  put after the other. -/
  composes : ∀ g, (compile e a g raw).unrecorded =
    (compile e a g raw₁ >>= fun p => compile e a g raw₂ >>= fun q => pure (p.append q)).unrecorded
  /-- Under the lenient policy there are both plans, and the warnings of the first come
  before those of the second. -/
  lenient : ∃ p q, (compile e a ⟨.lenient, .recording⟩ raw₁).result = .ok p ∧
    (compile e a ⟨.lenient, .recording⟩ raw₂).result = .ok q ∧
    (compile e a ⟨.lenient, .recording⟩ raw).result = .ok (p.append q) ∧
    (compile e a ⟨.lenient, .recording⟩ raw).warnings =
      (compile e a ⟨.lenient, .recording⟩ raw₁).warnings ++
        (compile e a ⟨.lenient, .recording⟩ raw₂).warnings
  /-- Under the strict policy the failure of the first comes first. -/
  first_fails : ∀ sink failure, (compile e a ⟨.strict, sink⟩ raw₁).result = .error failure →
    (compile e a ⟨.strict, sink⟩ raw).result = .error failure
  /-- Without it, the failure of the second is that of the whole. -/
  second_fails : ∀ sink p failure, (compile e a ⟨.strict, sink⟩ raw₁).result = .ok p →
    (compile e a ⟨.strict, sink⟩ raw₂).result = .error failure →
    (compile e a ⟨.strict, sink⟩ raw).result = .error failure
  /-- Without a failure the one plan is put after the other. -/
  neither_fails : ∀ sink p q, (compile e a ⟨.strict, sink⟩ raw₁).result = .ok p →
    (compile e a ⟨.strict, sink⟩ raw₂).result = .ok q →
    (compile e a ⟨.strict, sink⟩ raw).result = .ok (p.append q)

/-- When there are plans under the lenient policy, all follows from how the outcomes are
composed. -/
lemma Follows.of_composes {raw₁ raw₂ raw : Value} {p q : Plan}
    (h : ∀ g, (compile e a g raw).unrecorded = (compile e a g raw₁ >>= fun p =>
      compile e a g raw₂ >>= fun q => pure (p.append q)).unrecorded)
    (hp : (compile e a ⟨.lenient, .recording⟩ raw₁).result = .ok p)
    (hq : (compile e a ⟨.lenient, .recording⟩ raw₂).result = .ok q) :
    Follows e a raw₁ raw₂ raw := by
  have halike := fun g => Traced.alike_of_unrecorded (h g)
  refine ⟨h, ⟨p, q, hp, hq, ?_, ?_⟩, ?_, ?_, ?_⟩
  · rw [(halike _).result, Traced.bind_of_ok hp, Traced.bind_of_ok hq]
    rfl
  · rw [(halike _).warnings, Traced.bind_of_ok hp, Traced.bind_of_ok hq]
    simp [Traced.warnings]
  · intro sink failure hfails
    rw [(halike _).result, Traced.bind_of_error hfails]
  · intro sink p failure hp hfails
    rw [(halike _).result, Traced.bind_of_ok hp, Traced.bind_of_error hfails]
  · intro sink p q hp hq
    rw [(halike _).result, Traced.bind_of_ok hp, Traced.bind_of_ok hq]
    rfl

/-- A comma keeps the tokens of any two texts apart. Two texts without a custom ordering are
compiled one after the other when a comma stands between them, even if one of them is blank:
their fragments follow one another, the second adds the relations that the first does not
join, under the lenient policy the warnings follow one another, and under the strict policy
the first failure is that of the whole. The relations of the models are assumed to be resolved,
where a session answers with just this (`Session.step_compile_of_resolved`). -/
theorem comma_composes (e : Entity) (a : AllowList) :
    (∀ first second, Token.parse (first ++ "," ++ second) =
      Token.parse first ++ Token.parse second) ∧
    ∀ raw₁ raw₂ first second, Value.text? raw₁ = some first → Value.text? raw₂ = some second →
      (∀ t ∈ Token.parse first, Field.isCustom t.field = false) →
      (∀ t ∈ Token.parse second, Field.isCustom t.field = false) →
      Follows e a raw₁ raw₂ (.text (first ++ "," ++ second)) := by
  refine ⟨Token.parse_append, fun raw₁ raw₂ first second hraw₁ hraw₂ hfirst hsecond => ?_⟩
  have hplan : ∀ {raw spec}, Value.text? raw = some spec →
      (∀ t ∈ Token.parse spec, Field.isCustom t.field = false) →
      ∃ p, (compile e a ⟨.lenient, .recording⟩ raw).result = .ok p := by
    intro raw spec hraw hplain
    rw [compile_recording_result, Request.ofValue_of_plain hraw hplain]
    exact ⟨_, rfl⟩
  obtain ⟨p, hp⟩ := hplan hraw₁ hfirst
  obtain ⟨q, hq⟩ := hplan hraw₂ hsecond
  exact Follows.of_composes (fun g => compile_append hraw₁ hraw₂ hfirst hsecond) hp hq

/-- A relation that both texts need is joined once. What is refused of the first text is what
the whole fails for under the strict policy, and the blank columns leave nothing. -/
theorem comma_composes_books :
    let e : Entity := ⟨⟨"Book", []⟩, .plain "books" ["id", "title"],
      [("author", .ok (.plain "author" "authors" "books" "author_id" false))]⟩
    let a : AllowList := ⟨["title", "author__name", "author__age"], []⟩
    let first := "author__name:desc, secret "
    let second := ",title,author__age"
    let whole : Value := .text (first ++ "," ++ second)
    (∀ t ∈ Token.parse first, Field.isCustom t.field = false) ∧
      (∀ t ∈ Token.parse second, Field.isCustom t.field = false) ∧
      (compile e a ⟨.lenient, .recording⟩ whole).result =
        .ok ⟨["author"], [⟨"author.name DESC NULLS FIRST", some "author"⟩,
          ⟨"books.title ASC", none⟩, ⟨"author.age ASC NULLS LAST", some "author"⟩], none⟩ ∧
      (compile e a ⟨.lenient, .recording⟩ whole).warnings =
        ["ignoring disallowed column: secret"] ∧
      (compile e a ⟨.strict, .absent⟩ whole).result =
        .error (Refusal.ofColumn "secret").failure := by
  intro e a first second whole
  have hfirst : ∀ t ∈ Token.parse first, Field.isCustom t.field = false := by decide +kernel
  have hsecond : ∀ t ∈ Token.parse second, Field.isCustom t.field = false := by decide +kernel
  have hfollows := (comma_composes e a).2 (.text first) (.text second) first second rfl rfl
    hfirst hsecond
  have hp : (compile e a ⟨.lenient, .recording⟩ (.text first)).result =
      .ok ⟨["author"], [⟨"author.name DESC NULLS FIRST", some "author"⟩], none⟩ := by
    decide +kernel
  have hq : (compile e a ⟨.lenient, .recording⟩ (.text second)).result =
      .ok ⟨["author"], [⟨"books.title ASC", none⟩,
        ⟨"author.age ASC NULLS LAST", some "author"⟩], none⟩ := by
    decide +kernel
  obtain ⟨p, q, hp', hq', hwhole, hwarnings⟩ := hfollows.lenient
  obtain rfl := Except.ok.inj (hp.symm.trans hp')
  obtain rfl := Except.ok.inj (hq.symm.trans hq')
  have hrefusals : (Request.ofValue (.text first)).refusals e a = [.ofColumn "secret"] := by
    decide +kernel
  have hfails : (compile e a ⟨.strict, .absent⟩ (.text first)).result =
      .error (Refusal.ofColumn "secret").failure := by
    rw [compile_strict_result, hrefusals]
  refine ⟨hfirst, hsecond, hwhole.trans (by decide +kernel),
    hwarnings.trans (by decide +kernel), ?_⟩
  exact hfollows.first_fails .absent _ hfails

end Compile

end QueryOrder
