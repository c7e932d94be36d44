/-
Specifications that summon a custom ordering.

Whether a text is a custom ordering as a whole, and which one it means, is said here on
the text and on the model alone, without the program.

* `Summons`: a text that is a custom ordering as a whole, with its name and direction;
* `summons_iff`: a text summons a custom ordering exactly if it asks for it by its tokens;
* `Answers`: the custom ordering that a name stands for;
* `resolve_eq_ok_iff`, `resolve_eq_error_iff`: it is the one that is resolved, and without
  one the resolution fails;
* `Calls`, `Misses`: an allowed name is summoned, and stands for a custom ordering or for
  none;
* `Request.plan_of_calls`, `Request.calls_of_plan`, `Request.plan_eq_error_iff`: a request
  comes to a call exactly if it is of the first kind, and to a failure exactly if it is of
  the second.
-/
import QueryOrder.Proofs.Routing

namespace QueryOrder

/-! ### Names and directions -/

/-- A text asks for the descending order exactly if it is `desc`. -/
lemma Direction.ofText_some (text : String) :
    ofText (some text) = if text = "desc" then .descending else .ascending := by
  simp only [ofText, Option.some.injEq]

/-- A text summons a custom ordering: it has no comma, and it starts as one when it is
trimmed. The name ends at the first colon, and only the exact text `desc` after it asks
for the descending order. -/
inductive Summons (spec : String) : String → Direction → Prop
  /-- All of it is the name. -/
  | bare (hcomma : ',' ∉ spec.toList) (hcustom : Field.isCustom (Text.trimmed spec) = true)
      (hcolon : ':' ∉ (Text.trimmed spec).toList) :
      Summons spec (Text.trimmed spec) .ascending
  /-- The first colon stands between the name and the direction. -/
  | directed {before after : String} (hcomma : ',' ∉ spec.toList)
      (hcustom : Field.isCustom (Text.trimmed spec) = true)
      (hspec : Text.trimmed spec = before ++ ":" ++ after) (hcolon : ':' ∉ before.toList) :
      Summons spec (Text.trimmed before)
        (if Text.trimmed after = "desc" then .descending else .ascending)

/-- What is summoned is read off the two halves of the trimmed text. -/
lemma summons_iff_split {spec name : String} {d : Direction} :
    Summons spec name d ↔ ',' ∉ spec.toList ∧ Field.isCustom (Text.trimmed spec) = true ∧
      (Token.split (Text.trimmed spec).toList).1 = name ∧
      Direction.ofText (Token.split (Text.trimmed spec).toList).2 = d := by
  constructor
  · intro h
    cases h with
    | bare hcomma hcustom hcolon =>
        refine ⟨hcomma, hcustom, ?_, ?_⟩ <;> rw [Token.split_of_no_colon hcolon]
        · rw [Text.toList_trimmed, Text.trim_trim]
          rfl
        · rfl
    | @directed before after hcomma hcustom hspec hcolon =>
        have hchars : (Text.trimmed spec).toList = before.toList ++ ':' :: after.toList := by
          rw [hspec]
          simp
        refine ⟨hcomma, hcustom, ?_, ?_⟩ <;> rw [hchars, Token.split_append_colon hcolon]
        · rfl
        · exact Direction.ofText_some _
  · rintro ⟨hcomma, hcustom, rfl, rfl⟩
    by_cases hcolon : ':' ∈ (Text.trimmed spec).toList
    · obtain ⟨b, a, hs, hb⟩ := List.eq_append_cons_of_mem hcolon
      have hspec : Text.trimmed spec = String.ofList b ++ ":" ++ String.ofList a := by
        rw [← String.toList_inj, hs]
        simp
      have h := Summons.directed hcomma hcustom hspec (by simpa using hb)
      simp only [Text.trimmed, String.toList_ofList] at h
      rw [hs, Token.split_append_colon hb]
      simpa only [Direction.ofText_some] using h
    · have h := Summons.bare hcomma hcustom hcolon
      rw [Token.split_of_no_colon hcolon, Text.toList_trimmed, Text.trim_trim]
      exact h

/-- A text summons a custom ordering exactly if that is what it asks for by its tokens. -/
lemma summons_iff {spec name : String} {d : Direction} :
    Summons spec name d ↔ Request.ofText spec = .custom ⟨name, d⟩ := by
  rw [summons_iff_split]
  constructor
  · rintro ⟨hcomma, hcustom, rfl, rfl⟩
    obtain ⟨t, rest, hparse, ht⟩ := Token.parse_eq_cons_of_isCustom hcustom
    have hmem : t ∈ Token.parse spec := by
      rw [hparse]
      exact List.mem_cons_self
    obtain ⟨hfield, hdirection⟩ := Compile.split_trimmed hcomma hmem
    rw [(Request.ofText_of_no_comma hcomma hmem ht).2, hfield, hdirection]
  · intro h
    obtain ⟨hcomma, hparse, hcustom⟩ := Request.ofText_eq_custom h
    have hmem : ⟨name, d⟩ ∈ Token.parse spec := by
      rw [hparse]
      exact List.mem_cons_self
    exact ⟨hcomma, Token.isCustom_trimmed_of_mem_parse hcomma hmem hcustom,
      Compile.split_trimmed hcomma hmem⟩

/-- A value asks for a custom ordering exactly if it is a text that summons it. -/
lemma Request.ofValue_eq_custom_iff {raw : Value} {name : String} {d : Direction} :
    ofValue raw = .custom ⟨name, d⟩ ↔ ∃ spec, raw.text? = some spec ∧ Summons spec name d := by
  rw [ofValue]
  rcases raw.text? with _ | spec
  · simp
  · simp [summons_iff]

/-! ### What a name stands for -/

/-- The custom ordering that a name stands for. -/
inductive Answers (o : Owner) (a : AllowList) (name : String) : Scope → Prop
  /-- It is registered for the name, whatever the model has. -/
  | registered {scope : Scope} (h : a.scope? name = some scope) : Answers o a name scope
  /-- None is registered, and the model has an attribute that can be called, named by the custom
  ordering without its first two characters. -/
  | inherited {held : Attribute} {scope : Scope} (hnone : a.scope? name = none)
      (hheld : o.attributes.lookup ("sorted_by_" ++ String.ofList (name.toList.drop 2)) = some held)
      (hcall : held.callable? = some scope) : Answers o a name scope

namespace Compile

variable {o : Owner} {a : AllowList} {name : String}

lemma resolve?_eq_some_iff {scope : Scope} :
    resolve? o a name = some scope ↔ Answers o a name scope := by
  rw [resolve?]
  rcases hscope : a.scope? name with _ | registered
  · dsimp only
    constructor
    · intro h
      obtain ⟨held, hheld, hcall⟩ := Option.bind_eq_some_iff.mp h
      exact .inherited hscope hheld hcall
    · intro h
      cases h with
      | registered h => rw [hscope] at h; cases h
      | inherited hnone hheld hcall => exact Option.bind_eq_some_iff.mpr ⟨_, hheld, hcall⟩
  · dsimp only
    constructor
    · intro h
      exact .registered (hscope.trans h)
    · intro h
      cases h with
      | registered h => exact hscope.symm.trans h
      | inherited hnone hheld hcall => rw [hscope] at hnone; cases hnone

/-- The custom ordering that a name stands for is the one that is resolved. -/
lemma resolve_eq_ok_iff {scope : Scope} :
    resolve o a name = .ok scope ↔ Answers o a name scope := by
  rw [← resolve?_eq_some_iff, resolve]
  rcases resolve? o a name with _ | s <;> simp

/-- Without a custom ordering that a name stands for, its resolution fails. -/
lemma resolve_eq_error_iff {failure : Failure} :
    resolve o a name = .error failure ↔ (∀ scope, ¬ Answers o a name scope) ∧
      failure = .missingScope o.name name ("sorted_by_" ++ Field.suffix name) := by
  simp only [← resolve?_eq_some_iff]
  rw [resolve]
  rcases resolve? o a name with _ | s
  · simp [Field.method, Field.methodMark, eq_comm]
  · simp

end Compile

/-! ### What a request comes to -/

/-- A value calls a custom ordering: it summons one by an allowed name that stands for
it. -/
structure Calls (o : Owner) (a : AllowList) (raw : Value) (call : ScopeCall) : Prop where
  summons : ∃ spec, raw.text? = some spec ∧ Summons spec call.name call.direction
  allowed : call.name ∈ a.fields
  answers : Answers o a call.name call.scope

/-- A value misses a custom ordering: it summons one by an allowed name that stands for
none. -/
structure Misses (o : Owner) (a : AllowList) (raw : Value) (name : String) : Prop where
  summons : ∃ spec d, raw.text? = some spec ∧ Summons spec name d
  allowed : name ∈ a.fields
  unanswered : ∀ scope, ¬ Answers o a name scope

namespace Request

variable {e : Entity} {a : AllowList} {raw : Value}

/-- A plan has a custom ordering only if it is called. -/
lemma calls_of_plan {p : Plan} {call : ScopeCall} (h : (ofValue raw).plan e a = .ok p)
    (hcall : p.custom = some call) : Calls e.toOwner a raw call := by
  obtain ⟨hq, hallowed, hscope⟩ := custom_of_plan h hcall
  exact ⟨ofValue_eq_custom_iff.mp hq, hallowed, Compile.resolve_eq_ok_iff.mp hscope⟩

/-- When a custom ordering is called, nothing is refused and the plan is the call. -/
lemma plan_of_calls {call : ScopeCall} (h : Calls e.toOwner a raw call) :
    (ofValue raw).refusals e a = [] ∧ (ofValue raw).plan e a = .ok (.ofCall call) := by
  have hallowed : a.allows call.name = true := AllowList.allows_iff.mpr h.allowed
  rw [ofValue_eq_custom_iff.mpr h.summons]
  refine ⟨if_pos hallowed, ?_⟩
  rw [plan, if_pos hallowed, Compile.resolve_eq_ok_iff.mpr h.answers]
  rfl

/-- A request comes to a failure exactly if a custom ordering is missed. -/
lemma plan_eq_error_iff {failure : Failure} :
    (ofValue raw).plan e a = .error failure ↔
      ∃ name, Misses e.toOwner a raw name ∧
        failure = .missingScope e.name name ("sorted_by_" ++ Field.suffix name) := by
  constructor
  · intro h
    rcases hq : ofValue raw with tokens | t | spec
    · rw [hq] at h
      cases h
    · rw [hq, plan] at h
      split at h
      · next hallowed =>
        obtain ⟨spec, hspec, hsummons⟩ := ofValue_eq_custom_iff.mp hq
        rcases hscope : Compile.resolve e.toOwner a t.field with f | scope
        · rw [hscope] at h
          obtain rfl : f = failure := Except.error.inj h
          obtain ⟨hnone, hf⟩ := Compile.resolve_eq_error_iff.mp hscope
          exact ⟨t.field, ⟨⟨spec, t.direction, hspec, hsummons⟩,
            AllowList.allows_iff.mp hallowed, hnone⟩, hf⟩
        · rw [hscope] at h
          cases h
      · cases h
    · rw [hq] at h
      cases h
  · rintro ⟨name, ⟨⟨spec, d, hspec, hsummons⟩, hallowed, hnone⟩, rfl⟩
    rw [ofValue_eq_custom_iff.mpr ⟨spec, hspec, hsummons⟩, plan,
      if_pos (AllowList.allows_iff.mpr hallowed),
      Compile.resolve_eq_error_iff.mpr ⟨hnone, rfl⟩]
    rfl

end Request

end QueryOrder
