/-
What plans are made of.

* `eraseDups_induction`, `nodup_eraseDups`, `eraseDups_filter`: lists without their
  repetitions;
* `mem_joins_iff`, `nodup_joins`: the relations that fragments need are joined, none of them
  twice;
* `count_intercalate`, `count_orderBy`: how often a character occurs in texts with a
  separator between them, and in the text of an order.
-/
import Mathlib.Tactic.Common
import QueryOrder.Plan

namespace QueryOrder

/-! ### Relations to join -/

/-- The recursion of `eraseDups`: after the first element a list goes on without it. -/
@[elab_as_elim]
lemma eraseDups_induction {α : Type} [BEq α] {motive : List α → Prop} (nil : motive [])
    (cons : ∀ x l, motive (l.filter fun y => !y == x) → motive (x :: l)) (l : List α) :
    motive l := by
  induction h : l.length using Nat.strongRecOn generalizing l with
  | ind n ih =>
      rcases l with _ | ⟨x, l⟩
      · exact nil
      · have hlen : (l.filter fun y => !y == x).length < n := by
          rw [← h, List.length_cons, Nat.lt_succ_iff]
          exact List.length_filter_le _ l
        exact cons x l (ih _ hlen _ rfl)

section Repetitions

variable {α : Type} [BEq α] [LawfulBEq α]

/-- Without its repetitions a list has everything once. -/
lemma nodup_eraseDups (l : List α) : l.eraseDups.Nodup := by
  induction l using eraseDups_induction with
  | nil => simp
  | cons x l ih =>
      rw [List.eraseDups_cons, List.nodup_cons]
      exact ⟨by simp [List.mem_eraseDups], ih⟩

/-- Repetitions can be erased before some elements are taken out, or after. -/
lemma eraseDups_filter (p : α → Bool) (l : List α) :
    (l.filter p).eraseDups = l.eraseDups.filter p := by
  induction l using eraseDups_induction with
  | nil => rfl
  | cons x l ih =>
      rw [List.eraseDups_cons]
      by_cases hx : p x = true
      · have hcomm : (l.filter p).filter (fun y => !y == x) =
            (l.filter fun y => !y == x).filter p := by
          simp only [List.filter_filter, Bool.and_comm]
        rw [List.filter_cons_of_pos hx, List.filter_cons_of_pos hx, List.eraseDups_cons, hcomm, ih]
      · -- the element is taken out with all its repetitions
        have hrest : (l.filter fun y => !y == x).filter p = l.filter p := by
          rw [List.filter_filter]
          refine List.filter_congr fun y _ => ?_
          by_cases hyx : y = x <;> simp [hyx, hx]
        rw [List.filter_cons_of_neg hx, List.filter_cons_of_neg hx, ← ih, hrest]

/-- Of two lists the second adds what the first does not have. -/
lemma eraseDups_append_filter (l m : List α) :
    (l ++ m).eraseDups = l.eraseDups ++ m.eraseDups.filter fun x => !l.eraseDups.contains x := by
  rw [List.eraseDups_append, List.removeAll, eraseDups_filter]
  congr 1
  refine List.filter_congr fun x _ => ?_
  simp [List.mem_eraseDups]

end Repetitions

/-- A relation with a name is joined exactly if a fragment needs it. -/
lemma Fragment.mem_joins_iff {fragments : List Fragment} {name : String} :
    name ∈ joins fragments ↔ name ≠ "" ∧ ∃ f ∈ fragments, f.join = some name := by
  rw [joins, List.mem_eraseDups, List.mem_filter, List.mem_filterMap, bne_iff_ne, and_comm]

/-- No relation is joined twice. -/
lemma Fragment.nodup_joins (fragments : List Fragment) : (Fragment.joins fragments).Nodup :=
  nodup_eraseDups _

/-! ### The text of an order -/

/-- A character that does not occur in any of some texts occurs only in the separators
between them. -/
lemma count_intercalate {c : Char} {texts : List String} (separator : String)
    (h : ∀ t ∈ texts, c ∉ t.toList) :
    (separator.intercalate texts).toList.count c
      = (texts.length - 1) * separator.toList.count c := by
  induction texts with
  | nil => simp
  | cons t rest ih =>
      have hfirst : t.toList.count c = 0 := List.count_eq_zero.mpr (h t List.mem_cons_self)
      rcases rest with _ | ⟨t', rest⟩
      · simp [hfirst]
      · have hrest := ih fun u hu => h u (List.mem_cons_of_mem t hu)
        simp only [String.intercalate_cons_cons, String.toList_append, List.count_append, hfirst,
          hrest, List.length_cons, Nat.add_sub_cancel, Nat.succ_mul]
        omega

/-- A character that does not occur in any term of an order occurs in its text only
between the terms. -/
lemma Plan.count_orderBy {p : Plan} {c : Char} (h : ∀ f ∈ p.fragments, c ∉ f.sql.toList) :
    p.orderBy.toList.count c = (p.fragments.length - 1) * ", ".toList.count c := by
  have hterms : ∀ t ∈ p.fragments.map Fragment.sql, c ∉ t.toList := by
    intro t ht
    obtain ⟨f, hf, rfl⟩ := List.mem_map.mp ht
    exact h f hf
  rw [orderBy, count_intercalate ", " hterms, List.length_map]

end QueryOrder
