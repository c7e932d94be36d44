/-
What a larger allow-list changes.

An allow-list only ever takes tokens away from a specification. A larger one takes away fewer of
them, and leaves those that the smaller one granted as they were and where they were.

* `ruling_of_allowed`: a token that two allow-lists allow is ruled on in the same way;
* `granted?_of_subset`: a smaller allow-list grants what a larger one does, for its own fields;
* `made`, `made_of_subset`: the tokens that are granted, each with its fragment;
* `compile_of_fields`, `compile_of_plain_fields`: the order of the declared fields does not matter,
  nor do registered orderings to a text without one;
* `permissions_monotone`: the plans of one text under two allow-lists, of which the one is part of
  the other or the same.
-/
import QueryOrder.Proofs.Cleaning
import QueryOrder.Proofs.Contribution

namespace QueryOrder.Compile

variable {e : Entity} {a b : AllowList} {g : Gate}

/-! ### Rulings -/

/-- A token that two allow-lists allow is ruled on in the same way. -/
lemma ruling_of_allowed {t : Token} (ha : t.field ∈ a.fields) (hb : t.field ∈ b.fields) :
    ruling e a t = ruling e b t := by
  rw [ruling, ruling, if_pos (AllowList.allows_iff.mpr ha), if_pos (AllowList.allows_iff.mpr hb)]

/-- A smaller allow-list grants what a larger one does, for its own fields. -/
lemma granted?_of_subset (hsub : ∀ field ∈ a.fields, field ∈ b.fields) (t : Token) :
    granted? e a t = if a.allows t.field then granted? e b t else none := by
  by_cases hallowed : a.allows t.field = true
  · have ha := AllowList.allows_iff.mp hallowed
    rw [if_pos hallowed, granted?, granted?, ruling_of_allowed ha (hsub _ ha)]
  · rw [if_neg hallowed, granted?, ruling, if_neg hallowed]

/-- What a smaller allow-list does not refuse, a larger one does not refuse either. -/
lemma refused?_of_subset (hsub : ∀ field ∈ a.fields, field ∈ b.fields) {t : Token}
    (h : refused? e a t = none) : refused? e b t = none := by
  have ha := (refused?_eq_none_iff.mp h).allowed
  rwa [refused?, ← ruling_of_allowed ha (hsub _ ha)]

/-! ### Granted tokens with their fragments -/

/-- The tokens that are granted, each with its fragment. -/
def made (e : Entity) (a : AllowList) (tokens : List Token) : List (Token × Fragment) :=
  tokens.filterMap fun t => (granted? e a t).map fun f => (t, f)

variable {tokens : List Token}

lemma map_fst_made : (made e a tokens).map Prod.fst = tokens.filter (Accepted e a) := by
  rw [made, List.map_filterMap, ← List.filterMap_eq_filter]
  refine congrArg (tokens.filterMap ·) (funext fun t => ?_)
  by_cases haccepted : Accepted e a t
  · obtain ⟨f, hf⟩ := Option.isSome_iff_exists.mp (accepted_iff.mp haccepted)
    simp [haccepted, hf, Option.guard]
  · simp [haccepted, granted?_eq_none_iff.mpr haccepted, Option.guard]

lemma map_snd_made : (made e a tokens).map Prod.snd = tokens.filterMap (granted? e a) := by
  rw [made, List.map_filterMap]
  refine congrArg (tokens.filterMap ·) (funext fun t => ?_)
  rcases granted? e a t with _ | f <;> rfl

/-- The fragment of each is what the token contributes. -/
lemma contributes_of_mem_made {x : Token × Fragment} (h : x ∈ made e a tokens) :
    Contributes e a x.1 (.fragment x.2) := by
  obtain ⟨t, -, ht⟩ := List.mem_filterMap.mp h
  obtain ⟨f, hf, rfl⟩ := Option.map_eq_some_iff.mp ht
  exact contributes_of_granted hf

/-- Of the tokens that a larger allow-list grants, a smaller one grants those with its own fields,
and the same fragments. -/
lemma made_of_subset (hsub : ∀ field ∈ a.fields, field ∈ b.fields) :
    made e a tokens = (made e b tokens).filter fun x => a.allows x.1.field := by
  rw [made, made, List.filter_filterMap]
  refine congrArg (tokens.filterMap ·) (funext fun t => ?_)
  rw [granted?_of_subset hsub]
  by_cases hallowed : a.allows t.field = true
  · rcases granted? e b t with _ | f <;> simp [hallowed, Option.filter]
  · rcases granted? e b t with _ | f <;> simp [hallowed, Option.filter]

/-- The relations that a smaller allow-list joins for a text are among those that a larger one
joins. -/
lemma joins_subset (hsub : ∀ field ∈ a.fields, field ∈ b.fields) :
    Fragment.joins (tokens.filterMap (granted? e a)) ⊆
      Fragment.joins (tokens.filterMap (granted? e b)) := by
  intro name hname
  obtain ⟨hne, f, hf, hjoin⟩ := Fragment.mem_joins_iff.mp hname
  rw [← map_snd_made, made_of_subset hsub] at hf
  obtain ⟨x, hx, rfl⟩ := List.mem_map.mp hf
  rw [Fragment.mem_joins_iff, ← map_snd_made]
  exact ⟨hne, x.2, List.mem_map_of_mem (List.mem_of_mem_filter hx), hjoin⟩

/-! ### The order of a declaration -/

/-- Two allow-lists with the same fields make the same fragments of tokens. -/
lemma fragments_of_fields (hallows : ∀ field, a.allows field = b.allows field) (ts : List Token) :
    fragments e a g ts = fragments e b g ts := by
  induction ts with
  | nil => rfl
  | cons t rest ih =>
      rw [fragments, fragments, ih, fragment, fragment, hallows]

/-- To a text without a custom ordering the registered ones do not matter. -/
lemma compile_of_plain_fields (hallows : ∀ field, a.allows field = b.allows field) {raw : Value}
    {spec : String} (hraw : raw.text? = some spec)
    (hplain : ∀ t ∈ Token.parse spec, Field.isCustom t.field = false) :
    compile e a g raw = compile e b g raw := by
  have hwhole : ¬ Field.isCustom (Text.trimmed spec) = true := Token.not_isCustom_trimmed hplain
  rw [compile, compile, hraw]
  dsimp only
  rw [compileText, compileText, if_neg hwhole, if_neg hwhole]
  simp only [fragments_of_fields hallows]

/-- Two allow-lists with the same fields and the same registered orderings are alike to every
value. -/
lemma compile_of_fields (hallows : ∀ field, a.allows field = b.allows field)
    (hscopes : ∀ name, a.scope? name = b.scope? name) (raw : Value) :
    compile e a g raw = compile e b g raw := by
  have hresolve : ∀ name, resolve e.toOwner a name = resolve e.toOwner b name := by
    intro name
    rw [resolve, resolve, resolve?, resolve?, hscopes]
  have hdispatch : ∀ spec, dispatch e.toOwner a g spec = dispatch e.toOwner b g spec := by
    intro spec
    rw [dispatch, dispatch]
    simp only [hallows, hresolve]
  rw [compile, compile]
  split
  · next spec hraw =>
    rw [compileText, compileText, hdispatch]
    simp only [fragments_of_fields hallows]
  · rfl

/-! ### Larger allow-lists -/

/-- What the strict policy makes of a text under an allow-list, it makes of it under a larger
one. -/
lemma strict_of_subset (hsub : ∀ field ∈ a.fields, field ∈ b.fields) {raw : Value} {spec : String}
    (hraw : raw.text? = some spec)
    (hplain : ∀ t ∈ Token.parse spec, Field.isCustom t.field = false) {sink : Sink} {p : Plan}
    (h : (compile e a ⟨.strict, sink⟩ raw).result = .ok p) :
    (compile e b ⟨.strict, sink⟩ raw).result = .ok p := by
  have hrequest := Request.ofValue_of_plain hraw hplain
  have hnone : (Token.parse spec).filterMap (refused? e a) = [] := by
    rw [compile_strict_result, hrequest] at h
    rcases hr : (Token.parse spec).filterMap (refused? e a) with _ | ⟨r, rest⟩
    · rfl
    · rw [Request.refusals, hr] at h
      cases h
  have hrefused : ∀ t ∈ Token.parse spec, refused? e a t = none :=
    List.filterMap_eq_nil_iff.mp hnone
  have hnone' : (Token.parse spec).filterMap (refused? e b) = [] :=
    List.filterMap_eq_nil_iff.mpr fun t ht => refused?_of_subset hsub (hrefused t ht)
  have hgranted : (Token.parse spec).filterMap (granted? e a) =
      (Token.parse spec).filterMap (granted? e b) := by
    refine List.filterMap_congr fun t ht => ?_
    have ha := (refused?_eq_none_iff.mp (hrefused t ht)).allowed
    rw [granted?, granted?, ruling_of_allowed ha (hsub _ ha)]
  rw [compile_strict_result, hrequest] at h ⊢
  rw [Request.refusals, hnone, Request.plan, hgranted] at h
  rwa [Request.refusals, hnone', Request.plan]

/-- Let every field of one allow-list be one of another. A text without a custom ordering has a
plan under both by the lenient policy. That under the smaller list consists of the terms of the
other one whose token has a field of the smaller list, in their order, and joins no other
relations; `accepted` are the tokens that the larger list accepts, each with its term. A plan
under the smaller list by the strict policy is the plan under the larger one. If the lists
have the same fields, in whatever order, the outcomes of the text are the same altogether, and
so are those of every value if the lists have the same registered orderings as well. The relations
of the models are assumed to be resolved, where a session answers with just this
(`Session.step_compile_of_resolved`). -/
theorem permissions_monotone (hsub : ∀ field ∈ a.fields, field ∈ b.fields) {raw : Value}
    {spec : String} (hraw : raw.text? = some spec)
    (hplain : ∀ t ∈ Token.parse spec, Field.isCustom t.field = false) :
    (∃ p q, ∃ accepted : List (Token × Fragment),
      (∀ sink, sink ≠ .interrupting → (compile e a ⟨.lenient, sink⟩ raw).result = .ok p ∧
        (compile e b ⟨.lenient, sink⟩ raw).result = .ok q) ∧
      accepted.map Prod.fst = (Token.parse spec).filter (Accepted e b) ∧
      accepted.map Prod.snd = q.fragments ∧
      (∀ x ∈ accepted, Contributes e b x.1 (.fragment x.2)) ∧
      p.fragments = (accepted.filter fun x => x.1.field ∈ a.fields).map Prod.snd ∧
      p.joins ⊆ q.joins) ∧
    (∀ sink p, (compile e a ⟨.strict, sink⟩ raw).result = .ok p →
      (compile e b ⟨.strict, sink⟩ raw).result = .ok p) ∧
    ((∀ field ∈ b.fields, field ∈ a.fields) →
      (∀ g, compile e a g raw = compile e b g raw) ∧
      ((∀ name, a.scope? name = b.scope? name) →
        ∀ g raw', compile e a g raw' = compile e b g raw')) := by
  have hlenient : ∀ (c : AllowList) sink, sink ≠ .interrupting →
      (compile e c ⟨.lenient, sink⟩ raw).result =
        .ok (.ofFragments ((Token.parse spec).filterMap (granted? e c))) := by
    intro c sink hsink
    rw [compile_lenient_result rfl hsink, Request.ofValue_of_plain hraw hplain, Request.plan]
  refine ⟨⟨_, _, made e b (Token.parse spec),
    fun sink hsink => ⟨hlenient a sink hsink, hlenient b sink hsink⟩, map_fst_made, map_snd_made,
    fun x => contributes_of_mem_made, ?_, joins_subset hsub⟩,
    fun sink p => strict_of_subset hsub hraw hplain, fun hsub' => ?_⟩
  · rw [Plan.ofFragments, ← map_snd_made, made_of_subset hsub]
    simp only [AllowList.allows, List.contains_eq_mem]
  · have hallows : ∀ field, a.allows field = b.allows field := by
      intro field
      rw [Bool.eq_iff_iff, AllowList.allows_iff, AllowList.allows_iff]
      exact ⟨hsub field, hsub' field⟩
    exact ⟨fun g => compile_of_plain_fields hallows hraw hplain,
      fun hscopes g raw' => compile_of_fields hallows hscopes raw'⟩

/-- The smaller list keeps the last term alone, and its relation, which the larger one joins for the
first term already. What it makes of that term alone the strict policy makes of it under both, and
the larger list in another order is the same. -/
theorem permissions_monotone_books :
    let e : Entity := ⟨⟨"Book", []⟩, .plain "books" ["id", "title"],
      [("author", .ok (.plain "author" "authors" "books" "author_id" false))]⟩
    let a : AllowList := ⟨["author__name"], []⟩
    let b : AllowList := ⟨["title", "author__age", "author__name"], []⟩
    let b' : AllowList := ⟨["author__name", "title", "author__age"], []⟩
    let raw : Value := .text "author__age,title, isbn ,author__name:desc"
    let last : Fragment := ⟨"author.name DESC NULLS FIRST", some "author"⟩
    (compile e a ⟨.lenient, .recording⟩ raw).result = .ok ⟨["author"], [last], none⟩ ∧
      (∃ accepted : List (Token × Fragment),
        accepted.map Prod.fst = [⟨"author__age", .ascending⟩, ⟨"title", .ascending⟩,
          ⟨"author__name", .descending⟩] ∧
        [last] = (accepted.filter fun x => x.1.field ∈ a.fields).map Prod.snd) ∧
      (compile e b ⟨.strict, .absent⟩ (.text "author__name:desc")).result =
        .ok ⟨["author"], [last], none⟩ ∧
      ∀ g, compile e b g raw = compile e b' g raw := by
  intro e a b b' raw last
  have hsub : ∀ field ∈ a.fields, field ∈ b.fields := by decide
  have hsub' : ∀ field ∈ b.fields, field ∈ b'.fields := by decide
  have hplain : ∀ t ∈ Token.parse "author__age,title, isbn ,author__name:desc",
      Field.isCustom t.field = false := by decide +kernel
  have hplain' : ∀ t ∈ Token.parse "author__name:desc", Field.isCustom t.field = false := by
    decide +kernel
  have hraw : raw.text? = some "author__age,title, isbn ,author__name:desc" := rfl
  have hraw' : Value.text? (.text "author__name:desc") = some "author__name:desc" := rfl
  have hlenient : (compile e a ⟨.lenient, .recording⟩ raw).result =
      .ok ⟨["author"], [last], none⟩ := by
    decide +kernel
  obtain ⟨⟨p, q, accepted, hplans, htokens, -, -, hterms, -⟩, -⟩ :=
    permissions_monotone (e := e) hsub hraw hplain
  have hp := Except.ok.inj (hlenient.symm.trans (hplans .recording (by decide)).1)
  obtain ⟨-, hstrict, -⟩ := permissions_monotone (e := e) hsub hraw' hplain'
  obtain ⟨-, -, hsame⟩ := permissions_monotone (e := e) hsub' hraw hplain
  refine ⟨hlenient, ⟨accepted, htokens.trans (by decide +kernel), ?_⟩,
    hstrict .absent _ (by decide +kernel), (hsame (by decide)).1⟩
  rw [← hterms, ← hp]

end QueryOrder.Compile
