/-
Relations that a specification can sort by.

A field is written as its relation and its column with a double underscore between them. How it
is read again depends on the relation alone: an underscore at its end belongs to the separator,
and the letter `c` before an underscore is a custom ordering.

* `Field.Addressable`: a relation that a field can name;
* `Field.addressable_iff`: a relation and a column that are written as one field are read again
  as they were meant exactly for such a relation;
* `addressable_of_fragment`, `addressable_of_mem_joins`: no plan sorts by another relation, or
  joins it;
* `compile_addressed`: a field of such a relation compiles to a sort by it;
* `sorted_by_relation_iff`: a declared field of a relation of the model compiles to a sort by it
  exactly if it is such a relation, and no request at all sorts by any other.
-/
import QueryOrder.Proofs.Application
import QueryOrder.Proofs.Origin
import QueryOrder.Proofs.Token.RoundTrip

namespace QueryOrder

namespace Field

/-- A relation that a field can name: it is told apart from the column after it, and does not
make the field a custom ordering. -/
structure Addressable (relation : String) : Prop extends Separable relation where
  ne_letter : relation ≠ "c"
  not_custom : ∀ rest, relation ≠ "c_" ++ rest

/-- A relation and a column that are written as one field are read again as they were meant
exactly if a field can name the relation. -/
lemma addressable_iff {relation column : String} :
    Addressable relation ↔ Splits (relation ++ "__" ++ column) relation column ∧
      isCustom (relation ++ "__" ++ column) = false := by
  rw [splits_append_iff, ← Bool.not_eq_true, isCustom_related_iff, not_or, not_exists]
  exact ⟨fun h => ⟨h.toSeparable, h.ne_letter, h.not_custom⟩, fun h => ⟨h.1, h.2.1, h.2.2⟩⟩

instance (relation : String) : Decidable (Addressable relation) :=
  decidable_of_iff (ofColumn (relation ++ "__" ++ "") = .related relation "" ∧
    isCustom (relation ++ "__" ++ "") = false)
    (by rw [ofColumn_eq_related_iff, ← addressable_iff])

end Field

namespace Compile

open QueryOrder.Field (Addressable)

variable {e : Entity} {a : AllowList} {g : Gate} {raw : Value} {p : Plan} {relation : String}

/-! ### What plans sort by -/

/-- A granted token that is no custom ordering sorts by no other relation. -/
lemma addressable_of_granted {t : Token} {f : Fragment} (hgranted : granted? e a t = some f)
    (hplain : Field.isCustom t.field = false) (hjoin : f.join = some relation) :
    Addressable relation := by
  cases contributes_of_granted hgranted with
  | @related _ column hfield hsplits hsome =>
      obtain rfl := Option.some.inj hjoin
      have heq := hsplits.eq
      rw [heq] at hsplits hplain
      exact Field.addressable_iff.mpr ⟨hsplits, hplain⟩
  | column hfield hplain => cases hjoin

/-- No plan sorts by another relation. -/
lemma addressable_of_fragment (h : (compile e a g raw).result = .ok p) {f : Fragment}
    (hf : f ∈ p.fragments) (hjoin : f.join = some relation) : Addressable relation := by
  obtain ⟨hplain, t, ht, hgranted⟩ := exists_granted h hf
  exact addressable_of_granted hgranted (hplain t ht) hjoin

/-- No plan joins another relation. -/
lemma addressable_of_mem_joins (h : (compile e a g raw).result = .ok p)
    (hname : relation ∈ p.joins) : Addressable relation := by
  rw [joins_eq h] at hname
  obtain ⟨-, f, hf, hjoin⟩ := Fragment.mem_joins_iff.mp hname
  exact addressable_of_fragment h hf hjoin

/-! ### Fields of relations -/

variable {column : String} {d : Direction}

/-- The plan that sorts by a column of a related table. -/
def sortedBy (relation column : String) (d : Direction) : Plan :=
  ⟨[relation], [⟨relation ++ "." ++ column ++ " " ++ d.sql ++ " " ++ d.nulls, some relation⟩], none⟩

/-- A relation with a name is joined for the term that needs it. -/
lemma ofFragments_ofRelated (hname : relation ≠ "") :
    Plan.ofFragments [.ofRelated relation column d] = sortedBy relation column d := by
  have hjoins : Fragment.joins [.ofRelated relation column d] = [relation] := by
    simp [Fragment.joins, Fragment.ofRelated, hname, List.eraseDups_cons]
  rw [Plan.ofFragments, hjoins]
  rfl

/-- A declared field of a relation that a field can name compiles to a sort by it, and nothing
is refused. -/
lemma compile_addressed (hname : relation ≠ "") (hrelation : e.hasRelation relation = true)
    (hallowed : relation ++ "__" ++ column ∈ a.fields)
    (hclean : Token.IsClean (relation ++ "__" ++ column))
    (hraw : raw.text? = some (relation ++ "__" ++ column ++ ":" ++ d.text))
    (haddressable : Addressable relation) (g : Gate) :
    (compile e a g raw).result = .ok (sortedBy relation column d) ∧
      (compile e a g raw).warnings = [] := by
  obtain ⟨hsplits, hplain⟩ := Field.addressable_iff.mp haddressable
  let t : Token := ⟨relation ++ "__" ++ column, d⟩
  have hruling : ruling e a t = .ok (.ofRelated relation column d) :=
    (Ruled.related hallowed hsplits hrelation).eq
  have hparse : Token.parse t.text = [t] := Token.parse_text hclean
  rw [← ofFragments_ofRelated hname]
  exact compile_of_granted hraw hparse hplain hruling g

/-- A declared field of a relation of the model, in a direction, compiles to the sort by that
relation exactly if the relation neither has a double underscore in it, nor ends in an
underscore, nor is the letter `c`, nor starts as a custom ordering. This is so under both
policies and with nothing refused. By any other relation no request at all is sorted, whatever
is declared and whatever is asked for. The relations of the models are assumed to be resolved,
where a session answers with just this (`Session.step_compile_of_resolved`). -/
theorem sorted_by_relation_iff (hname : relation ≠ "") (hrelation : e.hasRelation relation = true)
    (hallowed : relation ++ "__" ++ column ∈ a.fields)
    (htrimmed : Text.trimmed (relation ++ "__" ++ column) = relation ++ "__" ++ column)
    (hcomma : ',' ∉ (relation ++ "__" ++ column).toList)
    (hcolon : ':' ∉ (relation ++ "__" ++ column).toList)
    (hraw : raw.text? = some (relation ++ "__" ++ column ++ ":" ++ d.text)) :
    (∀ g, (compile e a g raw).result = .ok ⟨[relation], [⟨relation ++ "." ++ column ++ " " ++
        d.sql ++ " " ++ d.nulls, some relation⟩], none⟩ ↔ Addressable relation) ∧
    (Addressable relation → ∀ g, (compile e a g raw).warnings = []) ∧
    (¬ Addressable relation → ∀ a' g raw' p, (compile e a' g raw').result = .ok p →
      relation ∉ p.joins ∧ ∀ f ∈ p.fragments, f.join ≠ some relation) := by
  have hclean : Token.IsClean (relation ++ "__" ++ column) :=
    ⟨fun h => by simpa using Field.eq_append_iff.mp h.symm, htrimmed, hcomma, hcolon⟩
  have hcompile := compile_addressed hname hrelation hallowed hclean hraw
  refine ⟨fun g => ⟨fun h => ?_, fun h => (hcompile h g).1⟩, fun h g => (hcompile h g).2, ?_⟩
  · exact addressable_of_mem_joins h List.mem_cons_self
  · intro hnot a' g raw' p hp
    exact ⟨fun hmem => hnot (addressable_of_mem_joins hp hmem),
      fun f hf hjoin => hnot (addressable_of_fragment hp hf hjoin)⟩

/-- Three relations: one that a field can name, one whose fields are custom orderings, and one
whose last underscore is taken for the separator, so that its field is one of the first. -/
theorem sorted_by_relation_iff_books :
    let join (name : String) : String × Except Failure Join :=
      (name, .ok (.plain name "authors" "books" (name ++ "_id") false))
    let e : Entity :=
      ⟨⟨"Book", []⟩, .plain "books" ["id"], [join "co_author", join "c", join "co_author_"]⟩
    let a : AllowList := ⟨["co_author__name", "c__name", "co_author___name"], []⟩
    (compile e a ⟨.strict, .absent⟩ (.text "co_author__name:desc")).result =
      .ok ⟨["co_author"], [⟨"co_author.name DESC NULLS FIRST", some "co_author"⟩], none⟩ ∧
    (∀ p, (compile e a ⟨.lenient, .recording⟩ (.text "c__name:asc")).result = .ok p →
      "c" ∉ p.joins) ∧
    (∀ p, (compile e a ⟨.lenient, .recording⟩ (.text "co_author___name:asc")).result = .ok p →
      "co_author_" ∉ p.joins) := by
  intro join e a
  have hnamed := @sorted_by_relation_iff e a (.text "co_author__name:desc") "co_author" "name"
    .descending (by decide) (by decide) (by decide) (by decide +kernel) (by decide) (by decide) rfl
  have hletter := @sorted_by_relation_iff e a (.text "c__name:asc") "c" "name"
    .ascending (by decide) (by decide) (by decide) (by decide +kernel) (by decide) (by decide) rfl
  have hend := @sorted_by_relation_iff e a (.text "co_author___name:asc") "co_author_" "name"
    .ascending (by decide) (by decide) (by decide) (by decide +kernel) (by decide) (by decide) rfl
  refine ⟨(hnamed.1 _).mpr (by decide +kernel), fun p hp => ?_, fun p hp => ?_⟩
  · exact (hletter.2.2 (by decide +kernel) a _ _ p hp).1
  · exact (hend.2.2 (by decide +kernel) a _ _ p hp).1

end Compile

end QueryOrder
