/-
What the classification of a field says.

* `Field.Splits`: the first double underscore of a field stands between two texts;
* `ofColumn_eq_related_iff`, `ofColumn_eq_column_iff`: a field names a column of a
  related table exactly if it has a double underscore, and the first one stands
  between the relation and the column;
* `Field.Separable`, `splits_append_iff`: a relation and a column that are written as one field
  are told apart again exactly if the relation neither has a double underscore nor makes one with
  that of the field;
* `isCustom_iff`, `isCustom_iff_append`: a field names a custom ordering exactly if it starts
  with two certain characters;
* `method_append`, `method_injective`: no two custom orderings have the same method;
* `isCustom_related_iff`: a field of a relation does so exactly if the relation is one letter, or
  starts so itself;
* `Field.spelled`: a field written anew from its parts;
* `classification_lossless`: whatever a field names is written as that field and as no other one,
  and which texts are taken for a relation and a column, or for a custom ordering.
-/
import Mathlib.Logic.Function.Basic
import QueryOrder.Field
import QueryOrder.Proofs.Text.Cut

namespace QueryOrder.Field

/-- A text with a double underscore in it, as its characters. -/
lemma eq_append_iff {field relation column : String} :
    field = relation ++ "__" ++ column ↔
      field.toList = relation.toList ++ ['_', '_'] ++ column.toList := by
  rw [← String.toList_inj, String.toList_append, String.toList_append]
  rfl

/-! ### Custom orderings -/

/-- A field names a custom ordering if it starts with two certain characters. -/
lemma isCustom_iff {field : String} : isCustom field = true ↔ ['c', '_'] <+: field.toList := by
  rw [isCustom, Text.startsWith, List.isPrefixOf_iff_prefix]
  rfl

/-- A field names a custom ordering if a text follows their mark. -/
lemma isCustom_iff_append {field : String} :
    isCustom field = true ↔ ∃ rest, field = "c_" ++ rest := by
  rw [isCustom_iff]
  constructor
  · rintro ⟨rest, hrest⟩
    refine ⟨String.ofList rest, String.toList_inj.mp ?_⟩
    simpa using hrest.symm
  · rintro ⟨rest, rfl⟩
    exact ⟨rest.toList, by rw [String.toList_append]; rfl⟩

/-- The name of a custom ordering without its mark is what follows the mark. -/
lemma suffix_append (rest : String) : suffix ("c_" ++ rest) = rest := by
  rw [suffix, ← String.toList_inj, String.toList_ofList, String.toList_append]
  rfl

/-- The method of a custom ordering is named by what follows the mark. -/
lemma method_append (rest : String) : method ("c_" ++ rest) = "sorted_by_" ++ rest := by
  rw [method, suffix_append]
  rfl

/-- Two custom orderings do not have the same method. -/
lemma method_injective {field field' : String} (h : isCustom field = true)
    (h' : isCustom field' = true) (heq : method field = method field') : field = field' := by
  obtain ⟨rest, rfl⟩ := isCustom_iff_append.mp h
  obtain ⟨rest', rfl⟩ := isCustom_iff_append.mp h'
  rw [method_append, method_append, String.append_right_inj] at heq
  rw [heq]

/-- A field of a relation names a custom ordering if the relation does, or if the underscore
after it makes it do so. -/
lemma isCustom_related_iff {relation column : String} :
    isCustom (relation ++ "__" ++ column) = true ↔
      relation = "c" ∨ ∃ rest, relation = "c_" ++ rest := by
  rw [← isCustom_iff_append, isCustom_iff, isCustom_iff, eq_append_iff.mp rfl,
    ← String.toList_inj]
  match relation.toList with
  | [] => simp
  | [c] => simp [eq_comm]
  | c :: d :: rest => simp

/-! ### Fields of relations -/

/-- The first double underscore of a field stands between two texts. -/
structure Splits (field relation column : String) : Prop where
  eq : field = relation ++ "__" ++ column
  first : ∀ r c, field = r ++ "__" ++ c → relation.length ≤ r.length

lemma splits_iff {field relation column : String} :
    Splits field relation column ↔
      Text.FirstMark ['_', '_'] field.toList relation.toList column.toList := by
  constructor
  · intro h
    refine ⟨eq_append_iff.mp h.eq, fun b a hba => ?_⟩
    have hle := h.first (String.ofList b) (String.ofList a) (eq_append_iff.mpr (by simpa using hba))
    simpa [String.length_toList] using hle
  · intro h
    refine ⟨eq_append_iff.mpr h.eq, fun r c hrc => ?_⟩
    simpa [String.length_toList] using h.first r.toList c.toList (eq_append_iff.mp hrc)

/-- A relation that is told apart from any column after it: it has no double underscore in it,
and does not end in an underscore. -/
structure Separable (relation : String) : Prop where
  no_mark : ∀ r c, relation ≠ r ++ "__" ++ c
  no_end : ∀ r, relation ≠ r ++ "_"

/-- A relation and a column that are written as one field are told apart again exactly if the
relation is one that can be. -/
lemma splits_append_iff {relation column : String} :
    Splits (relation ++ "__" ++ column) relation column ↔ Separable relation := by
  rw [splits_iff, eq_append_iff.mp rfl, Text.firstMark_append_iff]
  constructor
  · rintro ⟨hmark, hend⟩
    refine ⟨fun r c hrc => hmark _ _ (eq_append_iff.mp hrc), fun r hr => hend r.toList ?_⟩
    rw [hr, String.toList_append]
    rfl
  · rintro ⟨hmark, hend⟩
    refine ⟨fun b a hba => hmark (String.ofList b) (String.ofList a) ?_,
      fun b hb => hend (String.ofList b) ?_⟩
    · exact eq_append_iff.mpr (by simpa using hba)
    · exact String.toList_inj.mp (by simpa using hb)

/-- A field is one of a relation exactly if the first double underscore stands after the
relation. -/
lemma ofColumn_eq_related_iff {field relation column : String} :
    ofColumn field = .related relation column ↔ Splits field relation column := by
  rw [splits_iff, ← Text.cut_eq_some_iff (by simp), ofColumn]
  rcases Text.cut ['_', '_'] field.toList with _ | ⟨r, c⟩
  · simp
  · simp only [related.injEq, Option.some.injEq, Prod.mk.injEq, ← String.toList_inj,
      String.toList_ofList]

/-- A field is one of the table itself exactly if it has no double underscore. -/
lemma ofColumn_eq_column_iff {field name : String} :
    ofColumn field = .column name ↔ name = field ∧ ∀ r c, field ≠ r ++ "__" ++ c := by
  have hnone : (∀ r c, field ≠ r ++ "__" ++ c) ↔ Text.cut ['_', '_'] field.toList = none := by
    rw [Text.cut_eq_none_iff (by simp)]
    constructor
    · intro h b a hba
      exact h (String.ofList b) (String.ofList a) (eq_append_iff.mpr (by simpa using hba))
    · intro h r c hrc
      exact h r.toList c.toList (eq_append_iff.mp hrc)
  rw [hnone, ofColumn]
  rcases Text.cut ['_', '_'] field.toList with _ | ⟨r, c⟩
  · simp [eq_comm]
  · simp

/-- No field that is classified as a column names a custom ordering. -/
lemma ofColumn_ne_custom (field name : String) : ofColumn field ≠ .custom name := by
  rw [ofColumn]
  split <;> simp

/-- A field is one of the table itself exactly if it has no double underscore and is no custom
ordering. -/
lemma ofText_eq_column_iff {field name : String} :
    ofText field = .column name ↔
      name = field ∧ isCustom field = false ∧ ∀ r c, field ≠ r ++ "__" ++ c := by
  rw [ofText]
  split
  · next hcustom => simp [hcustom]
  · next hplain => simp [ofColumn_eq_column_iff, hplain]

/-- A field is one of a relation exactly if it has a double underscore. -/
lemma exists_ofColumn_eq_related_iff {field : String} :
    (∃ relation column, ofColumn field = .related relation column) ↔
      ∃ before after, field = before ++ "__" ++ after := by
  constructor
  · rintro ⟨relation, column, h⟩
    exact ⟨relation, column, (ofColumn_eq_related_iff.mp h).eq⟩
  · rintro ⟨before, after, hfield⟩
    rcases h : ofColumn field with name | ⟨relation, column⟩ | name
    · exact absurd hfield ((ofColumn_eq_column_iff.mp h).2 before after)
    · exact ⟨relation, column, rfl⟩
    · exact absurd h (ofColumn_ne_custom field name)

/-- The relation of a field is told apart from any column after it. -/
lemma separable_of_ofColumn {field relation column : String}
    (h : ofColumn field = .related relation column) : Separable relation := by
  have hsplits := ofColumn_eq_related_iff.mp h
  rw [hsplits.eq] at hsplits
  exact splits_append_iff.mp hsplits

/-! ### Fields written anew -/

/-- A field written anew: a custom ordering by its name without the mark, and the mark before
it. -/
def spelled : Field → String
  | .column name => name
  | .related relation name => relation ++ "__" ++ name
  | .custom name => customMark ++ suffix name

/-- The mark of a custom ordering is what its name is without. -/
lemma customMark_append_suffix {field : String} (h : isCustom field = true) :
    customMark ++ suffix field = field := by
  obtain ⟨rest, rfl⟩ := isCustom_iff_append.mp h
  rw [suffix_append]
  rfl

/-- Nothing of a column's name is lost. -/
lemma spelled_ofColumn (field : String) : (ofColumn field).spelled = field := by
  have htext : (ofColumn field).text = field := text_ofColumn field
  rcases h : ofColumn field with name | ⟨relation, column⟩ | name
  · rwa [h] at htext
  · rwa [h] at htext
  · exact absurd h (ofColumn_ne_custom field name)

/-- Nothing of a field's name is lost. -/
lemma spelled_ofText (field : String) : (ofText field).spelled = field := by
  rw [ofText]
  split
  · next hcustom => exact customMark_append_suffix hcustom
  · exact spelled_ofColumn field

/-- The two ways to classify a field differ for a custom ordering, and for nothing else. -/
lemma ofText_ne_ofColumn_iff {field : String} :
    ofText field ≠ ofColumn field ↔ isCustom field = true := by
  rw [ofText]
  split
  · next hcustom => exact iff_of_true (ofColumn_ne_custom field field).symm hcustom
  · next hplain => exact iff_of_false (fun h => h rfl) hplain

/-- Nothing is lost when a field is classified, as a column or as any field: it is what it names,
written anew, so that no two fields name the same. It names a column of a related table exactly if
it has a double underscore. The relation then has none and does not end in an underscore, and a
relation and a column that are written as one field are told apart again exactly if that is so.
A field that may be a custom ordering is classified otherwise than as a column exactly if it
starts as one. -/
theorem classification_lossless :
    (∀ field, (ofText field).spelled = field ∧ (ofColumn field).spelled = field) ∧
    Function.Injective ofText ∧ Function.Injective ofColumn ∧
    (∀ field, (∃ relation column, ofColumn field = .related relation column) ↔
      ∃ before after, field = before ++ "__" ++ after) ∧
    (∀ field relation column, ofColumn field = .related relation column → Separable relation) ∧
    (∀ relation column,
      ofColumn (relation ++ "__" ++ column) = .related relation column ↔ Separable relation) ∧
    ∀ field, ofText field ≠ ofColumn field ↔ ∃ rest, field = "c_" ++ rest := by
  refine ⟨fun field => ⟨spelled_ofText field, spelled_ofColumn field⟩,
    Function.LeftInverse.injective spelled_ofText,
    Function.LeftInverse.injective spelled_ofColumn,
    fun field => exists_ofColumn_eq_related_iff,
    fun field relation column => separable_of_ofColumn, fun relation column => ?_, fun field => ?_⟩
  · rw [ofColumn_eq_related_iff, splits_append_iff]
  · rw [ofText_ne_ofColumn_iff, isCustom_iff_append]

/-- Of three underscores the first two are the separator. -/
example : ofColumn ("a_" ++ "__" ++ "b") = .related "a" "_b" := by decide +kernel

end QueryOrder.Field
