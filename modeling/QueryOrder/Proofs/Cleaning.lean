/-
Specifications without what the rules refuse.

* `Accepted`, `accepted_iff`: the rules accept a token exactly if they grant it a fragment;
* `filterMap_granted_filter`, `filterMap_refused_filter`: the tokens that are not accepted
  have no fragment, and the accepted ones no refusal;
* `cleaned`, `parse_cleaned`: the accepted tokens of a specification, written as one;
* `compile_cleaned`: the strict policy makes of a cleaned specification what the lenient one
  makes of the specification itself.
-/
import QueryOrder.Proofs.Lenience
import QueryOrder.Proofs.Token.RoundTrip

namespace QueryOrder

/-- Fragments make an empty plan only if there are none. -/
lemma Plan.ofFragments_eq_empty_iff {fs : List Fragment} : ofFragments fs = empty ↔ fs = [] := by
  constructor
  · exact congrArg Plan.fragments
  · rintro rfl
    rfl

namespace Compile

variable {e : Entity} {a : AllowList}

/-! ### Accepted tokens -/

/-- The rules accept a token: its field is allowed, and if it is one of a relation, the model
has this relation. -/
structure Accepted (e : Entity) (a : AllowList) (t : Token) : Prop where
  allowed : t.field ∈ a.fields
  known : ∀ relation column, Field.Splits t.field relation column → e.hasRelation relation = true

/-- The rules accept a token exactly if they grant it a fragment. -/
lemma accepted_iff {t : Token} : Accepted e a t ↔ (granted? e a t).isSome = true := by
  have hruled := ruled e a t
  rw [granted?]
  generalize ruling e a t = r at hruled ⊢
  cases hruled with
  | disallowed hfield => exact iff_of_false (fun h => hfield h.allowed) Bool.false_ne_true
  | unknownRelation hfield hsplits hnone =>
      refine iff_of_false (fun h => ?_) Bool.false_ne_true
      rw [h.known _ _ hsplits] at hnone
      cases hnone
  | related hfield hsplits hsome =>
      refine iff_of_true ⟨hfield, fun relation column hsplits' => ?_⟩ rfl
      have heq := Field.ofColumn_eq_related_iff.mpr hsplits
      rw [Field.ofColumn_eq_related_iff.mpr hsplits'] at heq
      rwa [(Field.related.inj heq).1]
  | column hfield hplain =>
      exact iff_of_true ⟨hfield, fun r c hsplits => absurd hsplits.eq (hplain r c)⟩ rfl

instance : DecidablePred (Accepted e a) := fun _ => decidable_of_iff' _ accepted_iff

/-- A token is refused exactly if it is not accepted. -/
lemma refused?_eq_none_iff {t : Token} : refused? e a t = none ↔ Accepted e a t := by
  rw [accepted_iff, granted?, refused?]
  rcases ruling e a t with r | f <;> simp

lemma granted?_eq_none_iff {t : Token} : granted? e a t = none ↔ ¬ Accepted e a t := by
  rw [accepted_iff, Bool.not_eq_true, Option.isSome_eq_false_iff, Option.isNone_iff_eq_none]

/-- The tokens that are not accepted have no fragment. -/
lemma filterMap_granted_filter (tokens : List Token) :
    (tokens.filter (Accepted e a)).filterMap (granted? e a) = tokens.filterMap (granted? e a) := by
  rw [List.filterMap_filter]
  refine congrArg (tokens.filterMap ·) (funext fun t => ?_)
  by_cases haccepted : Accepted e a t
  · simp [haccepted]
  · simp [haccepted, granted?_eq_none_iff.mpr haccepted]

/-- The accepted tokens are not refused. -/
lemma filterMap_refused_filter (tokens : List Token) :
    (tokens.filter (Accepted e a)).filterMap (refused? e a) = [] := by
  refine List.filterMap_eq_nil_iff.mpr fun t ht => refused?_eq_none_iff.mpr ?_
  simpa using List.of_mem_filter ht

/-! ### Cleaned specifications -/

/-- The accepted tokens of a specification, written as a specification. -/
def cleaned (e : Entity) (a : AllowList) (spec : String) : String :=
  Token.render ((Token.parse spec).filter (Accepted e a))

/-- A cleaned specification has the accepted tokens, in their order. -/
lemma parse_cleaned (spec : String) :
    Token.parse (cleaned e a spec) = (Token.parse spec).filter (Accepted e a) :=
  Token.parse_render fun _ ht => Token.clean_of_mem_parse (List.mem_of_mem_filter ht)

/-- A cleaned specification asks for the accepted tokens. -/
lemma ofValue_cleaned {spec : String}
    (hplain : ∀ t ∈ Token.parse spec, Field.isCustom t.field = false) :
    Request.ofValue (.text (cleaned e a spec)) =
      .columns ((Token.parse spec).filter (Accepted e a)) := by
  rw [Request.ofValue_of_plain rfl, parse_cleaned]
  intro t ht
  rw [parse_cleaned] at ht
  exact hplain t (List.mem_of_mem_filter ht)

/-- What the lenient policy refuses of a specification without a custom ordering leaves no
trace in its plan. The tokens that it accepts, written as a specification, have the same plan
under either policy and without a warning, and the plan is empty exactly if there are no such
tokens. The relations of the models are assumed to be resolved, where a session answers with
just this (`Session.step_compile_of_resolved`). -/
theorem compile_cleaned {raw : Value} {spec : String} (hraw : raw.text? = some spec)
    (hplain : ∀ t ∈ Token.parse spec, Field.isCustom t.field = false) :
    ∃ p, (∀ sink, sink ≠ .interrupting → (compile e a ⟨.lenient, sink⟩ raw).result = .ok p) ∧
      (∀ g, (compile e a g (.text (cleaned e a spec))).result = .ok p ∧
        (compile e a g (.text (cleaned e a spec))).warnings = []) ∧
      (p = .empty ↔ ∀ t ∈ Token.parse spec, ¬ Accepted e a t) ∧
      Token.parse (cleaned e a spec) = (Token.parse spec).filter (Accepted e a) := by
  have hcleaned := ofValue_cleaned (e := e) (a := a) hplain
  refine ⟨.ofFragments ((Token.parse spec).filterMap (granted? e a)), fun sink hsink => ?_,
    fun g => ?_, ?_, parse_cleaned spec⟩
  · rw [compile_lenient_result rfl hsink, Request.ofValue_of_plain hraw hplain, Request.plan]
  · have hrefusals : (Request.ofValue (.text (cleaned e a spec))).refusals e a = [] := by
      rw [hcleaned, Request.refusals, filterMap_refused_filter]
    have halike := compile_alike_of_nil (g := g) hrefusals
    rw [halike.result, halike.warnings, hcleaned, Request.plan, filterMap_granted_filter]
    exact ⟨rfl, rfl⟩
  · rw [Plan.ofFragments_eq_empty_iff, List.filterMap_eq_nil_iff]
    simp only [granted?_eq_none_iff]

/-- A field outside the allow-list and one of a relation that the model lacks are left out.
The others keep their order, and the relation that two of them need is joined once. -/
theorem compile_cleaned_books :
    let e : Entity := ⟨⟨"Book", []⟩, .plain "books" ["id", "title"],
      [("author", .ok (.plain "author" "authors" "books" "author_id" false))]⟩
    let a : AllowList := ⟨["title", "author__name", "author__age", "editor__name"], []⟩
    let spec := "editor__name,author__age: desc ,secret,title:up,,author__name"
    (∀ t ∈ Token.parse spec, Field.isCustom t.field = false) ∧
      cleaned e a spec = "author__age:desc,title:asc,author__name:asc" ∧
      ∀ g, (compile e a g (.text (cleaned e a spec))).result =
        (compile e a ⟨.lenient, .recording⟩ (.text spec)).result := by
  intro e a spec
  have hplain : ∀ t ∈ Token.parse spec, Field.isCustom t.field = false := by decide +kernel
  have hraw : Value.text? (.text spec) = some spec := rfl
  obtain ⟨p, hlenient, hcleaned, -, -⟩ := compile_cleaned (e := e) (a := a) hraw hplain
  refine ⟨hplain, by decide +kernel, fun g => ?_⟩
  rw [(hcleaned g).1, hlenient .recording (by decide)]

end Compile

end QueryOrder
