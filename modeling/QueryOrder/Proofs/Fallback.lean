/-
Custom orderings that are methods of a model.

A custom ordering that is not registered is a method of the model, which is named after it. One
name would lead back to the sort that a sortable model offers itself, and so no allow-list may
declare it. The declaration is checked long before the request is read.

* `AllowList.Made`: all the ways to make an allow-list;
* `ofParts_unreserved`, `declare_unreserved`: the check of the two ways that all others come to;
* `Made.unreserved`: no allow-list has the reserved field, by induction on how it was made;
* `Compile.method_of_compile`: a method that is called is that of a declared field;
* `Made.never_reenters`: no request calls the method of the reserved field, and no two custom
  orderings share one.
-/
import QueryOrder.Proofs.AllowList.Declare
import QueryOrder.Proofs.Calling
import QueryOrder.Proofs.Reconfiguration

namespace QueryOrder

namespace AllowList

/-! ### Ways to make an allow-list -/

/-- An allow-list is made of its parts, from a list of fields, in the place of another one, from a
declared value, which may be an allow-list already, or on a sortable model. -/
inductive Made : AllowList → Prop
  | parts {fields scopes : Value} {a : AllowList} (h : ofParts fields scopes = .ok a) : Made a
  | declared {fields : List Value} {scopes : Value} {a : AllowList}
      (h : declare fields scopes = .ok a) : Made a
  | replaced {old : AllowList} {fields : List Value} {scopes : Value} {a : AllowList}
      (h : old.replace fields scopes = .ok a) : Made a
  | value {v : Value} {a : AllowList} (hv : ∀ b, v = .allowList b → Made b)
      (h : ofValue v = .ok a) : Made a
  | onModel {r : Registry} {model : String} {fields : List Value} {scopes : Value}
      {a : AllowList} (h : (r.declare model fields scopes).1 = .ok a) : Made a

variable {a : AllowList}

/-- Parts with the reserved field are not accepted. -/
lemma ofParts_unreserved {fields scopes : Value} (h : ofParts fields scopes = .ok a) :
    "c_columns" ∉ a.fields :=
  checkReserved_eq_ok_iff.mp (ofParts_accepted_iff.mp h).2.1

/-- Nor is a list of fields, whatever they are. -/
lemma declare_unreserved {fields : List Value} {scopes : Value}
    (h : declare fields scopes = .ok a) : "c_columns" ∉ a.fields := by
  obtain ⟨entries, -, hparts⟩ := bind_eq_ok_iff.mp h
  exact ofParts_unreserved hparts

/-- A declared value is an allow-list, or allows nothing, or is spread into a list of fields. -/
lemma ofValue_eq_ok {v : Value} (h : ofValue v = .ok a) :
    v = .allowList a ∨ a = empty ∨ ∃ items, declare items .null = .ok a := by
  rw [ofValue.eq_def] at h
  split at h
  · exact .inr (.inl (Except.ok.inj h).symm)
  · next b =>
    obtain rfl := Except.ok.inj h
    exact .inl rfl
  · split at h
    · next items _ => exact .inr (.inr ⟨items, h⟩)
    · cases h

/-- No allow-list has the reserved field. -/
lemma Made.unreserved (h : Made a) : "c_columns" ∉ a.fields := by
  induction h with
  | parts h => exact ofParts_unreserved h
  | declared h => exact declare_unreserved h
  | replaced h => exact declare_unreserved h
  | @value v a hv h ih =>
      -- an allow-list that is given stands for itself, and was made before
      rcases ofValue_eq_ok h with hself | rfl | ⟨items, hitems⟩
      · exact ih a hself
      · exact List.not_mem_nil
      · exact declare_unreserved hitems
  | onModel h => exact declare_unreserved (Registry.declare_of_result h)

end AllowList

namespace Compile

variable {e : Entity} {a : AllowList} {g : Gate} {raw : Value} {p : Plan} {call : ScopeCall}

/-- A custom ordering that is called without being registered is a method of the model, that of
a declared custom field. -/
lemma method_of_compile (h : (compile e a g raw).result = .ok p) (hcall : p.custom = some call)
    (hnone : a.scope? call.name = none) :
    ∃ s held, call.name = "c_" ++ s ∧ "c_" ++ s ∈ a.fields ∧
      e.attributes.lookup ("sorted_by_" ++ s) = some held ∧
      held.callable? = some call.scope := by
  have hcalls := calls_of_compile h hcall
  obtain ⟨spec, hraw, -⟩ := hcalls.summons
  obtain ⟨-, -, hcustom, hallowed, -⟩ := custom_of_compile hraw h hcall
  obtain ⟨s, hname⟩ := Field.isCustom_iff_append.mp hcustom
  cases hcalls.answers with
  | registered hscope =>
      rw [hnone] at hscope
      cases hscope
  | @inherited held _ _ hheld hcallable =>
      have hmethod : "sorted_by_" ++ String.ofList (call.name.toList.drop 2) =
          "sorted_by_" ++ s := by
        rw [hname]
        exact Field.method_append s
      rw [hmethod] at hheld
      exact ⟨s, held, hname, hname ▸ hallowed, hheld, hcallable⟩

end Compile

namespace AllowList

open Compile (compile)

variable {a : AllowList}

/-- However an allow-list was made, whatever the model has and whatever is asked for: a custom
ordering that is called without being registered is the attribute of the model that is named after
a declared custom field, and not the sort that a sortable model offers itself. If the model has
that sort under its own name only, it is not called at all. No two custom fields have the same
attribute. -/
theorem Made.never_reenters (h : Made a) :
    (∀ e g raw p call, (compile e a g raw).result = .ok p → p.custom = some call →
      a.scope? call.name = none →
      (∃ s held, call.name = "c_" ++ s ∧ "c_" ++ s ∈ a.fields ∧
        Field.method call.name = "sorted_by_" ++ s ∧
        "sorted_by_" ++ s ≠ EntryPoint.sort.name ∧
        e.attributes.lookup ("sorted_by_" ++ s) = some held ∧
        held.callable? = some call.scope) ∧
      ((∀ name held, e.attributes.lookup name = some held →
          held.callable? = some .entryPoint → name = EntryPoint.sort.name) →
        call.scope ≠ .entryPoint)) ∧
    ∀ field field', Field.isCustom field = true → Field.isCustom field' = true →
      Field.method field = Field.method field' → field = field' := by
  refine ⟨fun e g raw p call hplan hcall hnone => ?_, fun _ _ => Field.method_injective⟩
  obtain ⟨s, held, hname, hallowed, hheld, hcallable⟩ :=
    Compile.method_of_compile hplan hcall hnone
  have hother : "sorted_by_" ++ s ≠ EntryPoint.sort.name := by
    intro heq
    have hs : s = "columns" := by
      have hentry : "sorted_by_" ++ s = "sorted_by_" ++ "columns" := heq
      exact (String.append_right_inj _).mp hentry
    rw [hs] at hallowed
    exact h.unreserved hallowed
  refine ⟨⟨s, held, hname, hallowed, ?_, hother, hheld, hcallable⟩, fun honly hscope => ?_⟩
  · rw [hname, Field.method_append]
  · rw [hscope] at hcallable
    exact hother (honly _ held hheld hcallable)

/-- A declared value is spread into an allow-list, and a spaced request calls the method of a member
of an enumeration, on a model that offers a sort itself. -/
theorem Made.never_reenters_books :
    let scope : Scope := .given 1 "by_rank" .method
    let e : Entity := ⟨⟨"Book", [("sorted_by_columns", .entry .sort),
      ("sorted_by_rank", .value (.scope scope))]⟩, .plain "books" ["id"], []⟩
    let a : AllowList := ⟨["c_rank", "id"], []⟩
    let call : ScopeCall := ⟨"c_rank", scope, .descending⟩
    Made a ∧ (compile e a ⟨.strict, .absent⟩ (.text " c_rank :desc")).result = .ok (.ofCall call) ∧
      ∃ s, "c_rank" = "c_" ++ s ∧ "sorted_by_" ++ s ≠ "sorted_by_columns" := by
  intro scope e a call
  let v : Value := .tuple [.textMember "Column" "RANK" "c_rank", .text "id"]
  have hvalue : ofValue v = .ok a := by decide +kernel
  have hmade : Made a := .value (by simp [v]) hvalue
  have hplan : (compile e a ⟨.strict, .absent⟩ (.text " c_rank :desc")).result =
      .ok (.ofCall call) := by
    decide +kernel
  obtain ⟨hcalled, -⟩ := hmade.never_reenters
  obtain ⟨⟨s, -, hname, -, -, hother, -⟩, -⟩ := hcalled e _ _ _ call hplan rfl rfl
  exact ⟨hmade, hplan, s, hname, hother⟩

end AllowList

end QueryOrder
