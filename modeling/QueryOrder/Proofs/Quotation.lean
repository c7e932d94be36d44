/-
What the messages of failures quote.

Under the strict policy the message of a failure is a fixed text around what was asked for. What
was asked for stands in it as it is: it is never read as a template, whatever is in it.

* `Refusal.columnText`, `scopeText`, `relationText`, `combinedText`: the four messages, as texts
  around what they quote;
* `ColumnFault`, `refused?_failure_iff`: why a column is refused, and with which failure;
* `Opens`, `Opens.unique`: the name that a specification opens with, as far as its first colon;
* `ScopeFault`: why a specification that is taken for a custom ordering fails;
* `Fault`: why a value fails, by the first of its tokens that the rules do not accept, or as a
  whole;
* `Compile.compile_lenient_error` and its like: the lenient policy reports nothing;
* `Compile.failure_quotes`: these are the failures of the strict policy, and no others. None of
  them is that of a template.
-/
import QueryOrder.Proofs.Cleaning
import QueryOrder.Proofs.Summons

namespace QueryOrder

open Compile (Accepted)
open Template (Part filled)

/-! ### The messages -/

namespace Refusal

/-- The message for a field outside the allow-list. -/
def columnText (field : String) : String :=
  "detected a disallowed sortable column: " ++ field ++
    ". Ensure you add it to the allowed columns with column_sortable_by('" ++ field ++
    "'). In lenient mode the invalid column is ignored and allowed columns are processed."

/-- The message for a custom ordering outside the allow-list. -/
def scopeText (name : String) : String :=
  "detected a disallowed sortable column: " ++ name ++
    ". Ensure you add it to the allowed columns with column_sortable_by('" ++ name ++
    "'). In lenient mode the invalid column is ignored."

/-- The message for a relation that the model lacks. -/
def relationText (model relation field : String) : String :=
  "relationship '" ++ relation ++ "' doesn't exist on model " ++ model ++
    ". Check the relationship name in '" ++ field ++ "'."

/-- The message for a custom ordering beside other columns. -/
def combinedText (spec : String) : String :=
  "custom scope columns must be the only sort column, got '" ++ spec ++
    ("'. In lenient mode the whole sort specification is ignored and no ordering " ++
      "is applied.")

lemma message_ofColumn (field : String) : (ofColumn field).message = columnText field := by
  unfold ofColumn columnParts columnText
  simp only [filled, Part.shown, String.append_assoc, String.append_empty]

lemma message_ofScope (name : String) : (ofScope name).message = scopeText name := by
  unfold ofScope scopeParts scopeText
  simp only [filled, Part.shown, String.append_assoc, String.append_empty]

lemma message_ofRelation (model relation field : String) :
    (ofRelation model relation field).message = relationText model relation field := by
  have hfield : relationValue model relation field "field" = relation := rfl
  have hmodel : relationValue model relation field "model" = model := rfl
  have hcolumn : relationValue model relation field "column" = field := rfl
  unfold ofRelation relationParts relationText
  simp only [filled, Part.shown, hfield, hmodel, hcolumn, String.append_assoc, String.append_empty]

lemma message_ofCombined (spec : String) : (ofCombined spec).message = combinedText spec := by
  unfold ofCombined combinedParts combinedText
  simp only [filled, Part.shown, String.append_assoc, String.append_empty]

end Refusal

/-! ### Columns -/

/-- Why a column is refused, and with which failure. -/
inductive ColumnFault (e : Entity) (a : AllowList) (field : String) : Failure → Prop
  /-- It is outside the allow-list. -/
  | disallowed (hfield : field ∉ a.fields) :
      ColumnFault e a field
        (.violation .disallowed (Refusal.columnText field) field false)
  /-- The model lacks the relation before its first double underscore. -/
  | unknownRelation {relation column : String} (hfield : field ∈ a.fields)
      (hsplits : Field.Splits field relation column)
      (hrelation : e.hasRelation relation = false) :
      ColumnFault e a field
        (.violation .unknownRelation (Refusal.relationText e.name relation field) relation false)

namespace Compile

variable {e : Entity} {a : AllowList}

/-- A token is refused exactly for a fault of its column. -/
lemma refused?_failure_iff {t : Token} {failure : Failure} :
    (refused? e a t).map Refusal.failure = some failure ↔ ColumnFault e a t.field failure := by
  constructor
  · intro h
    obtain ⟨r, hr, rfl⟩ := Option.map_eq_some_iff.mp h
    have hruled := ruled e a t
    rw [refused?_eq_some_iff.mp hr] at hruled
    cases hruled with
    | disallowed hfield =>
        rw [Refusal.failure, Refusal.message_ofColumn]
        exact .disallowed hfield
    | unknownRelation hfield hsplits hnone =>
        rw [Refusal.failure, Refusal.message_ofRelation]
        exact .unknownRelation hfield hsplits hnone
  · intro h
    cases h with
    | disallowed hfield =>
        rw [refused?_eq_some_iff.mpr (Ruled.disallowed hfield).eq, Option.map_some,
          Refusal.failure, Refusal.message_ofColumn]
        rfl
    | unknownRelation hfield hsplits hrelation =>
        rw [refused?_eq_some_iff.mpr (Ruled.unknownRelation hfield hsplits hrelation).eq,
          Option.map_some, Refusal.failure, Refusal.message_ofRelation]
        rfl

/-- Under the strict policy the builder of terms fails exactly for a fault of the column. -/
lemma fragment_error_iff {sink : Sink} {field : String} {d : Direction} {failure : Failure} :
    (fragment e a ⟨.strict, sink⟩ field d).result = .error failure ↔
      ColumnFault e a field failure := by
  rw [← refused?_failure_iff (t := ⟨field, d⟩), (fragment_alike _ ⟨field, d⟩).result]
  rcases refused? e a ⟨field, d⟩ with _ | r
  · simp [Gate.refuseAll]
  · rw [Option.toList_some, Gate.refuseAll_strict, Traced.bind_of_error rfl]
    simp

/-- Under the strict policy the terms of tokens fail exactly for the first token that the rules do
not accept. -/
lemma fragments_error_iff {sink : Sink} {tokens : List Token} {failure : Failure} :
    (fragments e a ⟨.strict, sink⟩ tokens).result = .error failure ↔
      ∃ before t after, tokens = before ++ t :: after ∧ (∀ u ∈ before, Accepted e a u) ∧
        ColumnFault e a t.field failure := by
  rw [(fragments_alike _ tokens).result, Gate.refuseAll_strict]
  constructor
  · intro h
    rcases hrefusals : tokens.filterMap (refused? e a) with _ | ⟨r, rest⟩
    · rw [hrefusals] at h
      cases h
    · rw [hrefusals, Traced.bind_of_error rfl] at h
      obtain ⟨before, t, after, htokens, hbefore, ht, -⟩ :=
        List.filterMap_eq_cons_iff.mp hrefusals
      refine ⟨before, t, after, htokens, fun u hu => refused?_eq_none_iff.mp (hbefore u hu), ?_⟩
      rw [← refused?_failure_iff, ht]
      exact congrArg some (Except.error.inj h)
  · rintro ⟨before, t, after, rfl, hbefore, hfault⟩
    obtain ⟨r, hr, rfl⟩ := Option.map_eq_some_iff.mp (refused?_failure_iff.mpr hfault)
    have hnone : before.filterMap (refused? e a) = [] :=
      List.filterMap_eq_nil_iff.mpr fun u hu => refused?_eq_none_iff.mpr (hbefore u hu)
    rw [List.filterMap_append, hnone, List.nil_append, List.filterMap_cons_some hr,
      Traced.bind_of_error rfl]

end Compile

/-! ### Custom orderings -/

/-- The name that a specification opens with: all of it without a colon, and else what stands
before the first one, trimmed. -/
inductive Opens (spec : String) : String → Prop
  | whole (hcolon : ':' ∉ spec.toList) : Opens spec (Text.trimmed spec)
  | upTo {before after : String} (hspec : spec = before ++ ":" ++ after)
      (hcolon : ':' ∉ before.toList) : Opens spec (Text.trimmed before)

lemma opens_iff {spec name : String} :
    Opens spec name ↔ (Token.split (Text.trimmed spec).toList).1 = name := by
  rw [Token.split_trimmed]
  constructor
  · intro h
    cases h with
    | whole hcolon => rw [Token.split_of_no_colon hcolon, Text.trimmed]
    | @upTo before after hspec hcolon =>
        have hchars : spec.toList = before.toList ++ ':' :: after.toList := by simp [hspec]
        rw [hchars, Token.split_append_colon hcolon, Text.trimmed]
  · rintro rfl
    obtain ⟨f, hcolon, hshape, hf⟩ := Token.exists_field spec.toList
    have hname : (Token.split spec.toList).1 = Text.trimmed (String.ofList f) := by
      rw [hf, Text.trimmed, String.toList_ofList]
    rw [hname]
    rcases hshape with hall | ⟨d, hd⟩
    · rw [← hall, String.ofList_toList]
      exact .whole (hall ▸ hcolon)
    · refine @Opens.upTo _ _ (String.ofList d) (String.toList_inj.mp ?_) (by simpa using hcolon)
      rw [hd]
      simp

/-- A specification opens with one name. -/
lemma Opens.unique {spec name name' : String} (h : Opens spec name) (h' : Opens spec name') :
    name = name' :=
  (opens_iff.mp h).symm.trans (opens_iff.mp h')

/-- Why a specification that is taken for a custom ordering fails, and with which failure. -/
inductive ScopeFault (o : Owner) (a : AllowList) (spec : String) : Failure → Prop
  /-- It is beside other columns. -/
  | combined (hcomma : ',' ∈ spec.toList) :
      ScopeFault o a spec
        (.violation .combined (Refusal.combinedText (Text.trimmed spec)) (Text.trimmed spec) true)
  /-- Its name is outside the allow-list. -/
  | disallowed {name : String} (hcomma : ',' ∉ spec.toList) (hopens : Opens spec name)
      (hname : name ∉ a.fields) :
      ScopeFault o a spec (.violation .disallowed (Refusal.scopeText name) name false)
  /-- Its name stands for none. -/
  | missing {name : String} (hcomma : ',' ∉ spec.toList) (hopens : Opens spec name)
      (hname : name ∈ a.fields) (hnone : ∀ scope, ¬ Answers o a name scope) :
      ScopeFault o a spec (.missingScope o.name name ("sorted_by_" ++ Field.suffix name))

namespace ScopeFault

variable {o : Owner} {a : AllowList} {spec name : String} {failure : Failure}

lemma iff_of_comma (hcomma : ',' ∈ spec.toList) :
    ScopeFault o a spec failure ↔
      .violation .combined (Refusal.combinedText (Text.trimmed spec)) (Text.trimmed spec) true =
        failure := by
  constructor
  · intro h
    cases h with
    | combined => rfl
    | disallowed hnot => exact absurd hcomma hnot
    | missing hnot => exact absurd hcomma hnot
  · rintro rfl
    exact .combined hcomma

lemma iff_of_disallowed (hcomma : ',' ∉ spec.toList) (hopens : Opens spec name)
    (hname : name ∉ a.fields) :
    ScopeFault o a spec failure ↔
      .violation .disallowed (Refusal.scopeText name) name false = failure := by
  constructor
  · intro h
    cases h with
    | combined h => exact absurd h hcomma
    | disallowed _ hopens' => rw [hopens.unique hopens']
    | missing _ hopens' hname' => exact absurd (hopens'.unique hopens ▸ hname') hname
  · rintro rfl
    exact .disallowed hcomma hopens hname

lemma iff_of_allowed (hcomma : ',' ∉ spec.toList) (hopens : Opens spec name)
    (hname : name ∈ a.fields) :
    ScopeFault o a spec failure ↔ (∀ scope, ¬ Answers o a name scope) ∧
      failure = .missingScope o.name name ("sorted_by_" ++ Field.suffix name) := by
  constructor
  · intro h
    cases h with
    | combined h => exact absurd h hcomma
    | disallowed _ hopens' hname' => exact absurd (hopens.unique hopens' ▸ hname) hname'
    | missing _ hopens' _ hnone =>
        obtain rfl := hopens'.unique hopens
        exact ⟨hnone, rfl⟩
  · rintro ⟨hnone, rfl⟩
    exact .missing hcomma hopens hname hnone

end ScopeFault

namespace Compile

variable {o : Owner} {a : AllowList}

/-- Under the strict policy a custom ordering beside other columns fails. -/
lemma rejectCombined_strict (sink : Sink) (spec : String) :
    (rejectCombined ⟨.strict, sink⟩ spec).result =
      .error (.violation .combined (Refusal.combinedText spec) spec true) := by
  rw [rejectCombined, Gate.violation_ofCombined, Gate.refuse, Traced.bind_of_error rfl,
    Refusal.failure, Refusal.message_ofCombined]
  rfl

/-- Under the strict policy a specification that is taken for a custom ordering fails exactly for
its faults. -/
lemma dispatch_error_iff {sink : Sink} {spec : String} {failure : Failure} :
    (dispatch o a ⟨.strict, sink⟩ spec).result = .error failure ↔ ScopeFault o a spec failure := by
  have hcontains : (Text.trimmed spec).toList.contains ',' = true ↔ ',' ∈ spec.toList := by
    simp [Text.mem_trim_iff Text.isBlank_comma]
  rw [dispatch]
  dsimp only
  by_cases hcomma : ',' ∈ spec.toList
  · rw [if_pos (hcontains.mpr hcomma), rejectCombined_strict, Except.error.injEq,
      ScopeFault.iff_of_comma hcomma]
  · rw [if_neg fun h => hcomma (hcontains.mp h)]
    obtain ⟨name, hsplit⟩ : ∃ name, (Token.split (Text.trimmed spec).toList).1 = name := ⟨_, rfl⟩
    have hopens : Opens spec name := opens_iff.mpr hsplit
    rw [hsplit]
    by_cases hallowed : a.allows name = true
    · -- what follows the resolution only writes a record
      rw [if_pos hallowed, Traced.bind_error_iff fun scope => ⟨_, rfl⟩,
        ScopeFault.iff_of_allowed hcomma hopens (AllowList.allows_iff.mp hallowed)]
      exact resolve_eq_error_iff
    · have hname : name ∉ a.fields := fun h => hallowed (AllowList.allows_iff.mpr h)
      rw [if_neg hallowed, Gate.violation_ofScope, Gate.refuse, Traced.bind_of_error rfl,
        Except.error.injEq, Refusal.failure, Refusal.message_ofScope,
        ScopeFault.iff_of_disallowed hcomma hopens hname]
      rfl

end Compile

/-! ### Values -/

/-- Why a value fails, and with which failure. -/
inductive Fault (e : Entity) (a : AllowList) (raw : Value) : Failure → Prop
  /-- It asks for columns alone, and one of them is at fault after accepted ones. -/
  | column {spec : String} {before after : List Token} {t : Token} {failure : Failure}
      (hraw : raw.text? = some spec)
      (hplain : ∀ u ∈ Token.parse spec, Field.isCustom u.field = false)
      (htokens : Token.parse spec = before ++ t :: after)
      (haccepted : ∀ u ∈ before, Accepted e a u) (hfault : ColumnFault e a t.field failure) :
      Fault e a raw failure
  /-- It starts as a custom ordering, and is at fault as one. -/
  | custom {spec : String} {failure : Failure} (hraw : raw.text? = some spec)
      (hcustom : Field.isCustom (Text.trimmed spec) = true)
      (hfault : ScopeFault e.toOwner a spec failure) : Fault e a raw failure
  /-- It does not start as one, and has one after its first column. -/
  | combined {spec : String} {t : Token} (hraw : raw.text? = some spec)
      (hstart : Field.isCustom (Text.trimmed spec) = false) (ht : t ∈ Token.parse spec)
      (hcustom : Field.isCustom t.field = true) :
      Fault e a raw
        (.violation .combined (Refusal.combinedText (Text.trimmed spec)) (Text.trimmed spec) true)

namespace Fault

variable {e : Entity} {a : AllowList} {raw : Value} {spec : String} {failure : Failure}

/-- Only a text has a fault. -/
lemma text (h : Fault e a raw failure) : ∃ spec, raw.text? = some spec := by
  cases h with
  | column hraw => exact ⟨_, hraw⟩
  | custom hraw => exact ⟨_, hraw⟩
  | combined hraw => exact ⟨_, hraw⟩

lemma iff_of_start (hraw : raw.text? = some spec)
    (hstart : Field.isCustom (Text.trimmed spec) = true) :
    Fault e a raw failure ↔ ScopeFault e.toOwner a spec failure := by
  constructor
  · intro h
    cases h with
    | column hraw' hplain =>
        obtain rfl := Option.some.inj (hraw.symm.trans hraw')
        exact absurd hstart (Token.not_isCustom_trimmed hplain)
    | custom hraw' _ hfault =>
        obtain rfl := Option.some.inj (hraw.symm.trans hraw')
        exact hfault
    | combined hraw' hnot =>
        obtain rfl := Option.some.inj (hraw.symm.trans hraw')
        exact absurd hstart (by simp [hnot])
  · exact .custom hraw hstart

lemma iff_of_combined (hraw : raw.text? = some spec)
    (hstart : Field.isCustom (Text.trimmed spec) = false) {t : Token} (ht : t ∈ Token.parse spec)
    (hcustom : Field.isCustom t.field = true) :
    Fault e a raw failure ↔
      .violation .combined (Refusal.combinedText (Text.trimmed spec)) (Text.trimmed spec) true =
        failure := by
  constructor
  · intro h
    cases h with
    | column hraw' hplain =>
        obtain rfl := Option.some.inj (hraw.symm.trans hraw')
        exact absurd hcustom (by simp [hplain t ht])
    | custom hraw' hstart' =>
        obtain rfl := Option.some.inj (hraw.symm.trans hraw')
        exact absurd hstart' (by simp [hstart])
    | combined hraw' =>
        obtain rfl := Option.some.inj (hraw.symm.trans hraw')
        rfl
  · rintro rfl
    exact .combined hraw hstart ht hcustom

lemma iff_of_plain (hraw : raw.text? = some spec)
    (hplain : ∀ t ∈ Token.parse spec, Field.isCustom t.field = false) :
    Fault e a raw failure ↔ ∃ before t after, Token.parse spec = before ++ t :: after ∧
      (∀ u ∈ before, Accepted e a u) ∧ ColumnFault e a t.field failure := by
  constructor
  · intro h
    cases h with
    | column hraw' _ htokens hbefore hfault =>
        obtain rfl := Option.some.inj (hraw.symm.trans hraw')
        exact ⟨_, _, _, htokens, hbefore, hfault⟩
    | custom hraw' hstart =>
        obtain rfl := Option.some.inj (hraw.symm.trans hraw')
        exact absurd hstart (Token.not_isCustom_trimmed hplain)
    | combined hraw' _ ht hcustom =>
        obtain rfl := Option.some.inj (hraw.symm.trans hraw')
        exact absurd hcustom (by simp [hplain _ ht])
  · rintro ⟨before, t, after, htokens, hbefore, hfault⟩
    exact .column hraw hplain htokens hbefore hfault

end Fault

namespace Compile

variable {e : Entity} {a : AllowList}

/-- The result of a text needs no case for blank ones, which have no tokens. -/
lemma compile_result_of_text {g : Gate} {raw : Value} {spec : String}
    (hraw : raw.text? = some spec) :
    (compile e a g raw).result = (compileText e a g raw spec).result := by
  rw [(compile_alike g raw).result, Request.ofValue_of_text hraw,
    (compileText_alike g raw spec).result]

/-- Under the strict policy a text fails exactly for its faults. -/
lemma compileText_strict_error_iff {sink : Sink} {raw : Value} {spec : String} {failure : Failure}
    (hraw : raw.text? = some spec) :
    (compileText e a ⟨.strict, sink⟩ raw spec).result = .error failure ↔
      Fault e a raw failure := by
  rw [compileText]
  by_cases hstart : Field.isCustom (Text.trimmed spec) = true
  · rw [if_pos hstart, dispatch_error_iff, Fault.iff_of_start hraw hstart]
  · rw [if_neg hstart]
    dsimp only
    by_cases hany : ((Token.parse spec).any fun t => Field.isCustom t.field) = true
    · obtain ⟨t, ht, hcustom⟩ := List.any_eq_true.mp hany
      rw [if_pos hany, rejectCombined_strict, Except.error.injEq,
        Fault.iff_of_combined hraw (by simpa using hstart) ht hcustom]
    · have hplain : ∀ t ∈ Token.parse spec, Field.isCustom t.field = false :=
        fun t ht => by simpa using fun h => hany (List.any_eq_true.mpr ⟨t, ht, h⟩)
      rw [if_neg hany, Traced.bind_error_iff fun fs => ⟨_, rfl⟩, fragments_error_iff,
        Fault.iff_of_plain hraw hplain]

/-- Under the strict policy a value fails exactly for its faults. -/
lemma compile_strict_error_iff {sink : Sink} {raw : Value} {failure : Failure} :
    (compile e a ⟨.strict, sink⟩ raw).result = .error failure ↔ Fault e a raw failure := by
  rcases hraw : raw.text? with _ | spec
  · have hok : (compile e a ⟨.strict, sink⟩ raw).result = .ok .empty := by
      rw [compile, hraw]
      rfl
    rw [hok]
    constructor
    · intro h
      cases h
    · intro h
      obtain ⟨spec, hspec⟩ := h.text
      rw [hraw] at hspec
      cases hspec
  · rw [compile_result_of_text hraw, compileText_strict_error_iff hraw]

end Compile

/-! ### The lenient policy -/

/-- A failure that is reported for what was asked for, or that should have been. -/
def Failure.IsReport : Failure → Prop
  | .violation _ _ _ _ => True
  | .template _ => True
  | _ => False

/-- A warning fails only if its receiver stops the run. -/
lemma Gate.refuseAll_lenient_error {sink : Sink} {rs : List Refusal} {failure : Failure}
    (h : (refuseAll ⟨.lenient, sink⟩ rs).result = .error failure) : ¬ failure.IsReport := by
  induction rs with
  | nil => cases h
  | cons r rest ih =>
      have hfirst : (refuse ⟨.lenient, sink⟩ r).result = .ok () ∨
          (refuse ⟨.lenient, sink⟩ r).result = .error (.interrupted "log sink is down") := by
        cases sink with
        | interrupting => exact Or.inr rfl
        | _ => exact Or.inl rfl
      rw [refuseAll] at h
      rcases hfirst with hok | herror
      · rw [Traced.bind_of_ok hok] at h
        exact ih h
      · rw [Traced.bind_of_error herror] at h
        obtain rfl := Except.error.inj h
        exact id

namespace Compile

variable {e : Entity} {a : AllowList} {sink : Sink} {failure : Failure}

lemma fragment_lenient_error {field : String} {d : Direction}
    (h : (fragment e a ⟨.lenient, sink⟩ field d).result = .error failure) : ¬ failure.IsReport := by
  rw [(fragment_alike _ ⟨field, d⟩).result, Traced.bind_error_iff fun _ => ⟨_, rfl⟩] at h
  exact Gate.refuseAll_lenient_error h

lemma dispatch_lenient_error {o : Owner} {spec : String}
    (h : (dispatch o a ⟨.lenient, sink⟩ spec).result = .error failure) : ¬ failure.IsReport := by
  rw [dispatch] at h
  dsimp only at h
  by_cases hcomma : (Text.trimmed spec).toList.contains ',' = true
  · rw [if_pos hcomma, rejectCombined, Gate.violation_ofCombined, ← Gate.refuseAll_singleton,
      Traced.bind_error_iff fun _ => ⟨_, rfl⟩] at h
    exact Gate.refuseAll_lenient_error h
  · rw [if_neg hcomma] at h
    by_cases hallowed : a.allows (Token.split (Text.trimmed spec).toList).1 = true
    · rw [if_pos hallowed, Traced.bind_error_iff fun _ => ⟨_, rfl⟩] at h
      rw [(resolve_eq_error_iff.mp h).2]
      exact id
    · rw [if_neg hallowed, Gate.violation_ofScope, ← Gate.refuseAll_singleton,
        Traced.bind_error_iff fun _ => ⟨_, rfl⟩] at h
      exact Gate.refuseAll_lenient_error h

lemma compile_lenient_error {raw : Value}
    (h : (compile e a ⟨.lenient, sink⟩ raw).result = .error failure) : ¬ failure.IsReport := by
  rw [(compile_alike _ raw).result, serve] at h
  rcases hrefused : (Gate.refuseAll ⟨.lenient, sink⟩
    ((Request.ofValue raw).refusals e a)).result with failure' | u
  · rw [Traced.bind_of_error hrefused] at h
    obtain rfl := Except.error.inj h
    exact Gate.refuseAll_lenient_error hrefused
  · rw [Traced.bind_of_ok hrefused] at h
    obtain ⟨-, field, rfl⟩ := Request.plan_eq_error h
    exact id

/-- Under the strict policy the builder of terms, the dispatch of custom orderings and the
compilation of a value fail exactly for these faults. Whatever was asked for, the message is a
fixed text around it, and the failure is reported for the very text that is at fault. Under the
lenient policy nothing is reported, and under neither does a template fail to be filled in. -/
theorem failure_quotes :
    (∀ sink e a field d failure, (fragment e a ⟨.strict, sink⟩ field d).result = .error failure ↔
      ColumnFault e a field failure) ∧
    (∀ sink o a spec failure, (dispatch o a ⟨.strict, sink⟩ spec).result = .error failure ↔
      ScopeFault o a spec failure) ∧
    (∀ sink e a raw failure, (compile e a ⟨.strict, sink⟩ raw).result = .error failure ↔
      Fault e a raw failure) ∧
    ∀ (g : Gate) failure,
      ((∃ e a field d, (fragment e a g field d).result = .error failure) ∨
        (∃ o a spec, (dispatch o a g spec).result = .error failure) ∨
        ∃ e a raw, (compile e a g raw).result = .error failure) →
      (∀ fault, failure ≠ .template fault) ∧
        ∀ cause message field critical, failure = .violation cause message field critical →
          g.policy = .strict := by
  have hcolumn : ∀ {e a field fault}, ¬ ColumnFault e a field (.template fault) := by
    intro e a field fault h
    cases h
  have hscope : ∀ {o a spec fault}, ¬ ScopeFault o a spec (.template fault) := by
    intro o a spec fault h
    cases h
  have hvalue : ∀ {e a raw fault}, ¬ Fault e a raw (.template fault) := by
    intro e a raw fault h
    cases h with
    | column _ _ _ _ hfault => exact hcolumn hfault
    | custom _ _ hfault => exact hscope hfault
  refine ⟨fun sink e a field d failure => fragment_error_iff, fun sink o a spec failure =>
    dispatch_error_iff, fun sink e a raw failure => compile_strict_error_iff, ?_⟩
  rintro ⟨policy, sink⟩ failure h
  cases policy with
  | strict =>
      refine ⟨?_, fun _ _ _ _ _ => rfl⟩
      rintro fault rfl
      rcases h with ⟨e, a, field, d, h⟩ | ⟨o, a, spec, h⟩ | ⟨e, a, raw, h⟩
      · exact hcolumn (fragment_error_iff.mp h)
      · exact hscope (dispatch_error_iff.mp h)
      · exact hvalue (compile_strict_error_iff.mp h)
  | lenient =>
      have hreport : ¬ failure.IsReport := by
        rcases h with ⟨e, a, field, d, h⟩ | ⟨o, a, spec, h⟩ | ⟨e, a, raw, h⟩
        · exact fragment_lenient_error h
        · exact dispatch_lenient_error h
        · exact compile_lenient_error h
      constructor
      · rintro fault rfl
        exact hreport trivial
      · rintro cause message field critical rfl
        exact absurd trivial hreport

/-- Percent signs, holes, quotes and parentheses in what was asked for, and in the name of the
model, stand in the messages as they are. -/
theorem failure_quotes_holes :
    let e : Entity := ⟨⟨"100%(model)s", []⟩, .plain "books" ["id"], []⟩
    let a : AllowList := ⟨["%(column)s'__%%", "%d"], []⟩
    Refusal.relationText e.name "%(column)s'" "%(column)s'__%%" =
        "relationship '%(column)s'' doesn't exist on model 100%(model)s. " ++
          "Check the relationship name in '%(column)s'__%%'." ∧
      (compile e a ⟨.strict, .absent⟩ (.text "%d:desc, %(column)s'__%% ,(\"%(x)d")).result =
        .error (.violation .unknownRelation
          (Refusal.relationText e.name "%(column)s'" "%(column)s'__%%") "%(column)s'" false) ∧
      (compile e a ⟨.strict, .absent⟩ (.text "%d,c_%(field)s%")).result =
        .error (.violation .combined (Refusal.combinedText "%d,c_%(field)s%") "%d,c_%(field)s%"
          true) := by
  intro e a
  obtain ⟨-, -, hcompile, -⟩ := failure_quotes
  refine ⟨by decide +kernel, (hcompile _ e a _ _).mpr ?_, (hcompile _ e a _ _).mpr ?_⟩
  · have hsplits : Field.Splits "%(column)s'__%%" "%(column)s'" "%%" :=
      Field.ofColumn_eq_related_iff.mp (by decide +kernel)
    have hplain : ∀ u ∈ Token.parse "%d:desc, %(column)s'__%% ,(\"%(x)d",
        Field.isCustom u.field = false := by decide +kernel
    exact @Fault.column e a _ _ [⟨"%d", .descending⟩] [⟨"(\"%(x)d", .ascending⟩]
      ⟨"%(column)s'__%%", .ascending⟩ _ rfl hplain (by decide +kernel) (by decide +kernel)
      (.unknownRelation (by decide) hsplits rfl)
  · have htrimmed : Text.trimmed "%d,c_%(field)s%" = "%d,c_%(field)s%" := by decide
    have hfault := @Fault.combined e a (.text "%d,c_%(field)s%") _ ⟨"c_%(field)s%", .ascending⟩ rfl
      (by decide) (by decide +kernel) (by decide)
    rwa [htrimmed] at hfault

end Compile

end QueryOrder
