/-
What each token of a specification contributes.

* `Contribution`: a fragment or a warning;
* `Contribution.orderText`, `Contribution.relatedText`: the texts for a direction;
* `Contributes`: what a token contributes by the rules, said without the program;
* `contributes_iff`: the ruling on a token is what it contributes, so that each token
  contributes one thing;
* `compile_contributes`: under the lenient policy the fragments and the warnings of a
  specification are the contributions of its tokens, in order.
-/
import Mathlib.Data.List.Forall2
import QueryOrder.Proofs.Plan
import QueryOrder.Proofs.Request

namespace QueryOrder

/-- What a token contributes to a sort. -/
inductive Contribution where
  | fragment (f : Fragment)
  | warning (message : String)
deriving DecidableEq, Repr

namespace Contribution

def fragment? : Contribution → Option Fragment
  | fragment f => some f
  | warning _ => none

def warning? : Contribution → Option String
  | fragment _ => none
  | warning message => some message

/-- The text for a direction after a column of the table itself. -/
def orderText : Direction → String
  | .ascending => "ASC"
  | .descending => "DESC"

/-- The text for a direction after a column of a related table. Rows without a related one come
last, and first in the other direction. -/
def relatedText : Direction → String
  | .ascending => "ASC NULLS LAST"
  | .descending => "DESC NULLS FIRST"

end Contribution

namespace Fragment

/-- The term for a column of the table itself, with the text for its direction. -/
lemma ofColumn_eq (table column : String) (d : Direction) : ofColumn table column d =
    ⟨table ++ "." ++ column ++ " " ++ Contribution.orderText d, none⟩ := by
  cases d <;> rfl

/-- The term for a column of a related table, with the text for its direction. -/
lemma ofRelated_eq (relation column : String) (d : Direction) : ofRelated relation column d =
    ⟨relation ++ "." ++ column ++ " " ++ Contribution.relatedText d, some relation⟩ := by
  have htext : d.sql ++ " " ++ d.nulls = Contribution.relatedText d := by cases d <;> rfl
  rw [ofRelated, ← htext]
  simp only [String.append_assoc]

end Fragment

namespace Compile

variable (e : Entity) (a : AllowList)

/-- What a token contributes to a sort of a model by an allow-list. -/
inductive Contributes (t : Token) : Contribution → Prop
  /-- A field outside the allow-list is warned of, whatever its form. -/
  | disallowed (hfield : t.field ∉ a.fields) :
      Contributes t (.warning ("ignoring disallowed column: " ++ t.field))
  /-- A relation that the model lacks is warned of. -/
  | unknownRelation {relation column : String} (hfield : t.field ∈ a.fields)
      (hsplits : Field.Splits t.field relation column) (hnone : e.hasRelation relation = false) :
      Contributes t (.warning ("ignoring disallowed column: " ++ relation))
  /-- A column of a related table is sorted by, with the relation joined. -/
  | related {relation column : String} (hfield : t.field ∈ a.fields)
      (hsplits : Field.Splits t.field relation column) (hsome : e.hasRelation relation = true) :
      Contributes t (.fragment
        ⟨relation ++ "." ++ column ++ " " ++ Contribution.relatedText t.direction, some relation⟩)
  /-- A column of the table itself is sorted by. -/
  | column (hfield : t.field ∈ a.fields) (hplain : ∀ r c, t.field ≠ r ++ "__" ++ c) :
      Contributes t (.fragment
        ⟨e.table.name ++ "." ++ t.field ++ " " ++ Contribution.orderText t.direction, none⟩)

/-- The ruling on a token as a contribution. -/
def contribution (t : Token) : Contribution :=
  match ruling e a t with
  | .ok f => .fragment f
  | .error r => .warning r.warning

variable {e a}

/-- The ruling on a token is what it contributes. -/
lemma contributes_contribution (t : Token) : Contributes e a t (contribution e a t) := by
  have hruled := ruled e a t
  rw [contribution]
  generalize ruling e a t = r at hruled ⊢
  cases hruled with
  | disallowed hfield => exact .disallowed hfield
  | unknownRelation hfield hsplits hnone => exact .unknownRelation hfield hsplits hnone
  | related hfield hsplits hsome =>
      rw [Fragment.ofRelated_eq]
      exact .related hfield hsplits hsome
  | column hfield hplain =>
      rw [Fragment.ofColumn_eq]
      exact .column hfield hplain

/-- A token contributes one thing. -/
lemma Contributes.eq_contribution {t : Token} {c : Contribution} (h : Contributes e a t c) :
    c = contribution e a t := by
  rw [contribution]
  cases h with
  | disallowed hfield => rw [(Ruled.disallowed hfield).eq]; rfl
  | unknownRelation hfield hsplits hnone =>
      rw [(Ruled.unknownRelation hfield hsplits hnone).eq]
      rfl
  | related hfield hsplits hsome =>
      rw [(Ruled.related hfield hsplits hsome).eq, Fragment.ofRelated_eq]
  | column hfield hplain => rw [(Ruled.column hfield hplain).eq, Fragment.ofColumn_eq]

/-- The ruling on a token is what it contributes, and the only thing. -/
lemma contributes_iff {t : Token} {c : Contribution} :
    Contributes e a t c ↔ c = contribution e a t :=
  ⟨Contributes.eq_contribution, fun h => h ▸ contributes_contribution t⟩

lemma existsUnique_contributes (t : Token) : ∃! c, Contributes e a t c :=
  ⟨contribution e a t, contributes_contribution t, fun _ h => h.eq_contribution⟩

/-! ### All tokens of a specification -/

/-- A list has what each token contributes, in the order of the tokens. -/
lemma forall₂_contributes (tokens : List Token) :
    List.Forall₂ (Contributes e a) tokens (tokens.map (contribution e a)) := by
  rw [List.forall₂_map_right_iff, List.forall₂_same]
  exact fun t _ => contributes_contribution t

/-- The granted fragments are the fragments among the contributions. -/
lemma filterMap_fragment? (tokens : List Token) :
    (tokens.map (contribution e a)).filterMap Contribution.fragment?
      = tokens.filterMap (granted? e a) := by
  rw [List.filterMap_map]
  refine congrArg (tokens.filterMap ·) (funext fun t => ?_)
  rw [Function.comp_apply, contribution, granted?]
  rcases ruling e a t with r | f <;> rfl

/-- The warnings of the refused tokens are the warnings among the contributions. -/
lemma filterMap_warning? (tokens : List Token) :
    (tokens.map (contribution e a)).filterMap Contribution.warning?
      = (tokens.filterMap (refused? e a)).map Refusal.warning := by
  rw [List.filterMap_map, List.map_filterMap]
  refine congrArg (tokens.filterMap ·) (funext fun t => ?_)
  rw [Function.comp_apply, contribution, refused?]
  rcases ruling e a t with r | f <;> rfl

/-- The fragment of a granted token is what it contributes. -/
lemma contributes_of_granted {t : Token} {f : Fragment} (h : granted? e a t = some f) :
    Contributes e a t (.fragment f) := by
  rw [contributes_iff, contribution, granted?_eq_some_iff.mp h]

/-- Every fragment of a plan is the term for a column of the table itself, or of the table that a
relation of the model leads to. -/
lemma fragment_cases {g : Gate} {raw : Value} {p : Plan} (h : (compile e a g raw).result = .ok p)
    {f : Fragment} (hf : f ∈ p.fragments) :
    (∃ field d, f = .ofColumn e.table.name field d) ∨
      ∃ relation column d, e.hasRelation relation = true ∧ f = .ofRelated relation column d := by
  obtain ⟨-, t, -, ht⟩ := exists_granted h hf
  have hruled : Ruled e a t (.ok f) := granted?_eq_some_iff.mp ht ▸ ruled e a t
  cases hruled with
  | column hfield hplain => exact .inl ⟨t.field, t.direction, rfl⟩
  | @related relation column hfield hsplits hsome =>
      exact .inr ⟨relation, column, t.direction, hsome, rfl⟩

/-- If no relation is without a name, every relation that a granted fragment needs is
joined. -/
lemma joins_granted (hnames : e.hasRelation "" = false) (tokens : List Token) :
    Fragment.joins (tokens.filterMap (granted? e a))
      = ((tokens.filterMap (granted? e a)).filterMap Fragment.join).eraseDups := by
  rw [Fragment.joins, List.filter_eq_self.mpr]
  intro name hname
  obtain ⟨f, hf, hjoin⟩ := List.mem_filterMap.mp hname
  obtain ⟨t, -, ht⟩ := List.mem_filterMap.mp hf
  cases contributes_of_granted ht with
  | related hfield hsplits hsome =>
      rw [← Option.some.inj hjoin]
      simpa using fun h0 => by simp [h0, hnames] at hsome
  | column hfield hplain => cases hjoin

/-- An outcome is what tokens contribute: the fragments and the warnings in the order of
the tokens, and every relation that a fragment needs joined once, in the order of the
first need. -/
def MadeOf (e : Entity) (a : AllowList) (tokens : List Token) (done : Traced Plan) : Prop :=
  ∃ cs p, List.Forall₂ (Contributes e a) tokens cs ∧
    done.result = .ok p ∧
    p.custom = none ∧
    p.fragments = cs.filterMap Contribution.fragment? ∧
    p.joins = (p.fragments.filterMap Fragment.join).eraseDups ∧
    p.joins.Nodup ∧
    done.warnings = cs.filterMap Contribution.warning?

/-- Without a custom ordering, a text compiles under the lenient policy to what its
tokens contribute, each of them one thing. The relations of the models are assumed to be
resolved, where a session answers with just this (`Session.step_compile_of_resolved`). -/
theorem compile_contributes {raw : Value} {spec : String} (hraw : raw.text? = some spec)
    (hnames : e.hasRelation "" = false)
    (hplain : ∀ t ∈ Token.parse spec, Field.isCustom t.field = false) :
    (∀ t, ∃! c, Contributes e a t c) ∧
      MadeOf e a (Token.parse spec) (compile e a ⟨.lenient, .recording⟩ raw) := by
  have hrequest : Request.ofValue raw = .columns (Token.parse spec) := by
    rw [Request.ofValue_of_text hraw]
    exact Request.ofText_of_plain hplain
  refine ⟨existsUnique_contributes, (Token.parse spec).map (contribution e a),
    .ofFragments ((Token.parse spec).filterMap (granted? e a)), forall₂_contributes _, ?_, rfl,
    (filterMap_fragment? _).symm, joins_granted hnames _, ?_, ?_⟩
  · rw [compile_recording_result, hrequest]
    rfl
  · exact Fragment.nodup_joins _
  · rw [compile_recording_warnings, hrequest, filterMap_warning?]
    rfl

/-- A column of the table, two of one relation, one outside the allow-list and one of a
relation that the model lacks. Both directions occur, in each kind of term. -/
theorem compile_contributes_books :
    let e : Entity := ⟨⟨"Book", []⟩, .plain "books" ["id", "title"],
      [("author", .ok (.plain "author" "authors" "books" "author_id" false))]⟩
    let a : AllowList := ⟨["id", "title", "author__name", "author__age", "editor__name"], []⟩
    let spec := "author__age:desc, secret ,title,editor__name,id:desc,author__name"
    let done := compile e a ⟨.lenient, .recording⟩ (.text spec)
    e.hasRelation "" = false ∧ (∀ t ∈ Token.parse spec, Field.isCustom t.field = false) ∧
      MadeOf e a (Token.parse spec) done ∧
      done.result = .ok
        { joins := ["author"]
          fragments := [⟨"author.age DESC NULLS FIRST", some "author"⟩, ⟨"books.title ASC", none⟩,
            ⟨"books.id DESC", none⟩, ⟨"author.name ASC NULLS LAST", some "author"⟩]
          custom := none } ∧
      done.warnings =
        ["ignoring disallowed column: secret", "ignoring disallowed column: editor"] := by
  intro e a spec done
  have hnames : e.hasRelation "" = false := by decide +kernel
  have hplain : ∀ t ∈ Token.parse spec, Field.isCustom t.field = false := by decide +kernel
  have hmade : MadeOf e a (Token.parse spec) done := (compile_contributes rfl hnames hplain).2
  exact ⟨hnames, hplain, hmade, by decide +kernel, by decide +kernel⟩

end Compile

end QueryOrder
