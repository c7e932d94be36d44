/-
What the rules say of tokens.

* `Fragment.ofField`: the fragment of a field, if the rules allow it;
* `ruling`: the fragment of a token, or why it is refused; `granted?` and `refused?`
  are its two halves;
* `Ruled`, `ruled`, `Ruled.eq`: what can be said of a token, in terms of its field;
* `ruling_eq_ok`: a granted token has an allowed field, and the fragment of that
  field;
* `fragments_alike`: to make the fragments of tokens is to hand the refused ones to
  the gate, in order, and then to have the fragments of the granted ones.
-/
import QueryOrder.Proofs.Field
import QueryOrder.Proofs.Refusal

namespace QueryOrder

/-- The fragment of a field in a direction. A field with a double underscore names a
column of a related table. -/
def Fragment.ofField (table field : String) (d : Direction) : Fragment :=
  match Field.ofColumn field with
  | .related relation column => .ofRelated relation column d
  | f => .ofColumn table f.text d

namespace Compile

open Traced (Alike)

variable (e : Entity) (a : AllowList)

/-- The fragment of a token, or why it is refused. It is refused for its field before
the form of the field is looked at. -/
def ruling (t : Token) : Except Refusal Fragment :=
  if a.allows t.field then
    match Field.ofColumn t.field with
    | .related relation column =>
      if e.hasRelation relation then .ok (.ofRelated relation column t.direction)
      else .error (.ofRelation e.name relation t.field)
    | f => .ok (.ofColumn e.table.name f.text t.direction)
  else .error (.ofColumn t.field)

/-- The fragment of a token that is not refused. -/
def granted? (t : Token) : Option Fragment :=
  match ruling e a t with
  | .ok f => some f
  | .error _ => none

/-- The refusal of a token that is refused. -/
def refused? (t : Token) : Option Refusal :=
  match ruling e a t with
  | .ok _ => none
  | .error r => some r

variable {e a}

/-- What the rules say of a token, by what is declared and by the first double underscore of its
field. -/
inductive Ruled (e : Entity) (a : AllowList) (t : Token) : Except Refusal Fragment → Prop
  /-- A field outside the allow-list is refused, whatever its form. -/
  | disallowed (hfield : t.field ∉ a.fields) : Ruled e a t (.error (.ofColumn t.field))
  /-- A relation that the model lacks is refused. -/
  | unknownRelation {relation column : String} (hfield : t.field ∈ a.fields)
      (hsplits : Field.Splits t.field relation column) (hnone : e.hasRelation relation = false) :
      Ruled e a t (.error (.ofRelation e.name relation t.field))
  /-- A column of a related table is granted. -/
  | related {relation column : String} (hfield : t.field ∈ a.fields)
      (hsplits : Field.Splits t.field relation column) (hsome : e.hasRelation relation = true) :
      Ruled e a t (.ok (.ofRelated relation column t.direction))
  /-- A column of the table itself is granted. -/
  | column (hfield : t.field ∈ a.fields) (hplain : ∀ r c, t.field ≠ r ++ "__" ++ c) :
      Ruled e a t (.ok (.ofColumn e.table.name t.field t.direction))

/-- The rules say one of these four things. -/
lemma ruled (e : Entity) (a : AllowList) (t : Token) : Ruled e a t (ruling e a t) := by
  rw [ruling]
  by_cases hallowed : a.allows t.field = true
  · have hfield := AllowList.allows_iff.mp hallowed
    rw [if_pos hallowed]
    rcases hc : Field.ofColumn t.field with name | ⟨relation, column⟩ | name
    · obtain ⟨rfl, hplain⟩ := Field.ofColumn_eq_column_iff.mp hc
      exact .column hfield hplain
    · have hsplits := Field.ofColumn_eq_related_iff.mp hc
      dsimp only
      by_cases hrelation : e.hasRelation relation = true
      · rw [if_pos hrelation]
        exact .related hfield hsplits hrelation
      · rw [if_neg hrelation]
        exact .unknownRelation hfield hsplits (Bool.eq_false_iff.mpr hrelation)
    · exact absurd hc (Field.ofColumn_ne_custom _ _)
  · rw [if_neg hallowed]
    exact .disallowed fun h => hallowed (AllowList.allows_iff.mpr h)

/-- And no two of them. -/
lemma Ruled.eq {t : Token} {r : Except Refusal Fragment} (h : Ruled e a t r) :
    ruling e a t = r := by
  rw [ruling]
  cases h with
  | disallowed hfield => exact if_neg fun h => hfield (AllowList.allows_iff.mp h)
  | unknownRelation hfield hsplits hnone =>
      rw [if_pos (AllowList.allows_iff.mpr hfield), Field.ofColumn_eq_related_iff.mpr hsplits]
      exact if_neg (by simp [hnone])
  | related hfield hsplits hsome =>
      rw [if_pos (AllowList.allows_iff.mpr hfield), Field.ofColumn_eq_related_iff.mpr hsplits]
      exact if_pos hsome
  | column hfield hplain =>
      rw [if_pos (AllowList.allows_iff.mpr hfield),
        Field.ofColumn_eq_column_iff.mpr ⟨rfl, hplain⟩]
      rfl

/-- A granted token has an allowed field, and the fragment of that field. -/
lemma ruling_eq_ok {t : Token} {f : Fragment} (h : ruling e a t = .ok f) :
    t.field ∈ a.fields ∧ f = .ofField e.table.name t.field t.direction := by
  have hruled := ruled e a t
  rw [h] at hruled
  rw [Fragment.ofField]
  cases hruled with
  | related hfield hsplits => exact ⟨hfield, by rw [Field.ofColumn_eq_related_iff.mpr hsplits]⟩
  | column hfield hplain =>
      exact ⟨hfield, by rw [Field.ofColumn_eq_column_iff.mpr ⟨rfl, hplain⟩]; rfl⟩

/-- A token is granted the fragment that it is ruled. -/
lemma granted?_eq_some_iff {t : Token} {f : Fragment} :
    granted? e a t = some f ↔ ruling e a t = .ok f := by
  rw [granted?]
  rcases ruling e a t with r | f' <;> simp

/-- A token is refused as it is ruled. -/
lemma refused?_eq_some_iff {t : Token} {r : Refusal} :
    refused? e a t = some r ↔ ruling e a t = .error r := by
  rw [refused?]
  rcases ruling e a t with r' | f <;> simp

/-- A token is refused for its field, or for the relation in it. -/
lemma ruling_eq_error {t : Token} {r : Refusal} (h : ruling e a t = .error r) :
    r = .ofColumn t.field ∨ ∃ relation, r = .ofRelation e.name relation t.field := by
  have hruled := ruled e a t
  rw [h] at hruled
  cases hruled with
  | disallowed => exact Or.inl rfl
  | @unknownRelation relation => exact Or.inr ⟨relation, rfl⟩

/-! ### The fragments of tokens -/

/-- To make the fragment of a token is to hand it to the gate if it is refused, and
then to have its fragment if it is granted. -/
lemma fragment_alike (g : Gate) (t : Token) :
    Alike (fragment e a g t.field t.direction)
      (g.refuseAll (refused? e a t).toList >>= fun _ => pure (granted? e a t)) := by
  rw [fragment, refused?, granted?, ruling]
  by_cases hallowed : a.allows t.field = true
  · simp only [if_pos hallowed]
    rcases hfield : Field.ofColumn t.field with name | ⟨relation, column⟩ | name
    · simp only [Option.toList_none, Gate.refuseAll, pure_bind]
      exact Alike.refl _
    · refine (Traced.alike_emit rfl _).trans ?_
      by_cases hrelation : e.hasRelation relation = true
      · simp only [if_pos hrelation, Option.toList_none, Gate.refuseAll, pure_bind]
        exact Alike.refl _
      · simp only [if_neg hrelation, Option.toList_some,
          Gate.refuseAll_singleton, g.violation_ofRelation]
        exact Alike.refl _
    · simp only [Option.toList_none, Gate.refuseAll, pure_bind]
      exact Alike.refl _
  · simp only [if_neg hallowed, Option.toList_some, Gate.refuseAll_singleton,
      g.violation_ofColumn]
    exact Alike.refl _

/-- To make the fragments of tokens is to hand the refused ones to the gate, in order,
and then to have the fragments of the granted ones. -/
theorem fragments_alike (g : Gate) (tokens : List Token) :
    Alike (fragments e a g tokens)
      (g.refuseAll (tokens.filterMap (refused? e a)) >>= fun _ =>
        pure (tokens.filterMap (granted? e a))) := by
  induction tokens with
  | nil => exact Alike.refl _
  | cons t rest ih =>
      have hcons : ∀ {β : Type} (f : Token → Option β),
          (t :: rest).filterMap f = (f t).toList ++ rest.filterMap f := by
        intro β f
        rw [List.filterMap_cons]
        rcases f t with _ | b <;> rfl
      rw [fragments]
      refine (Alike.bind (fragment_alike g t) fun first =>
        Alike.bind ih fun others => Alike.refl _).trans ?_
      simp only [hcons, Gate.refuseAll_append, bind_assoc, pure_bind]
      exact Alike.refl _

end Compile

end QueryOrder
