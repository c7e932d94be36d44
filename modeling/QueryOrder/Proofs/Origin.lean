/-
Where the text of an order comes from.

A request names columns, but no text of a request is written into an order: each term
is made from a field of the allow-list, and of these only from fields that a token can
have.

* `Fragment.mem_ofField`: what the term of a field can have in it;
* `Vetted`: a token whose field is allowed, with the term of that field;
* `separators_of_vetted`: terms of vetted tokens have no colon in them, and a comma only
  between two of them;
* `compile_vetted`: the terms of a plan are those of vetted tokens, one for each.
-/
import Mathlib.Data.List.Forall2
import QueryOrder.Proofs.Plan
import QueryOrder.Proofs.Request

namespace QueryOrder

/-! ### The term of a field -/

/-- What the term of a field consists of, beside the table and the field. -/
def Fragment.frame (d : Direction) : String :=
  "." ++ d.sql ++ " " ++ d.nulls

/-- The term of a field consists of the table, the field and the direction. -/
lemma Fragment.mem_ofField {c : Char} {table field : String} {d : Direction}
    (h : c ∈ (ofField table field d).sql.toList) :
    c ∈ table.toList ∨ c ∈ field.toList ∨ c ∈ (frame d).toList := by
  have htext := Field.text_ofColumn field
  rw [ofField] at h
  generalize Field.ofColumn field = kind at h htext
  rcases kind with name | ⟨relation, column⟩ | name
  · obtain rfl : name = field := htext
    simp only [ofColumn, Field.text, frame, String.toList_append, List.mem_append] at h ⊢
    rcases h with (((h | h) | h) | h) | h <;> simp only [h, true_or, or_true]
  · obtain rfl : relation ++ "__" ++ column = field := htext
    simp only [ofRelated, frame, String.toList_append, List.mem_append] at h ⊢
    rcases h with (((((h | h) | h) | h) | h) | h) | h <;> simp only [h, true_or, or_true]
  · obtain rfl : name = field := htext
    simp only [ofColumn, Field.text, frame, String.toList_append, List.mem_append] at h ⊢
    rcases h with (((h | h) | h) | h) | h <;> simp only [h, true_or, or_true]

/-! ### Vetted tokens -/

/-- A token whose field is allowed, with the term of that field. -/
structure Vetted (e : Entity) (a : AllowList) (t : Token) (f : Fragment) : Prop where
  allowed : t.field ∈ a.fields
  clean : Token.IsClean t.field
  plain : Field.isCustom t.field = false
  eq : f = .ofField e.table.name t.field t.direction

variable {e : Entity} {a : AllowList}

/-- A character that no field of a token has is in the term of a vetted one only if the
table or every such term has it. -/
lemma Vetted.notMem_sql {t : Token} {f : Fragment} (h : Vetted e a t f) {c : Char}
    (htable : c ∉ e.table.name.toList) (hfield : c ∉ t.field.toList)
    (hframe : ∀ d, c ∉ (Fragment.frame d).toList) : c ∉ f.sql.toList := by
  intro hc
  rw [h.eq] at hc
  rcases Fragment.mem_ofField hc with hc | hc | hc
  · exact htable hc
  · exact hfield hc
  · exact hframe t.direction hc

/-- Over a table without a comma in its name, the term of a vetted token has none. -/
lemma Vetted.comma_notMem_sql {t : Token} {f : Fragment} (h : Vetted e a t f)
    (htable : ',' ∉ e.table.name.toList) : ',' ∉ f.sql.toList :=
  h.notMem_sql htable h.clean.no_comma fun d => by cases d <;> decide

/-- Over a table without a colon and a comma in its name, the terms of vetted tokens have
no colon in them, and a comma only between two of them. -/
lemma separators_of_vetted {tokens : List Token} {p : Plan}
    (h : List.Forall₂ (Vetted e a) tokens p.fragments)
    (hcomma : ',' ∉ e.table.name.toList) (hcolon : ':' ∉ e.table.name.toList) :
    ':' ∉ p.orderBy.toList ∧ p.orderBy.toList.count ',' = p.fragments.length - 1 := by
  have hvetted : ∀ f ∈ p.fragments, ∃ t, Vetted e a t f := by
    intro f hf
    obtain ⟨i, hi, rfl⟩ := List.getElem_of_mem hf
    exact ⟨_, h.get (h.length_eq ▸ hi) hi⟩
  have hno_comma : ∀ f ∈ p.fragments, ',' ∉ f.sql.toList := by
    intro f hf
    obtain ⟨t, ht⟩ := hvetted f hf
    exact ht.comma_notMem_sql hcomma
  have hno_colon : ∀ f ∈ p.fragments, ':' ∉ f.sql.toList := by
    intro f hf
    obtain ⟨t, ht⟩ := hvetted f hf
    exact ht.notMem_sql hcolon ht.clean.no_colon fun d => by cases d <;> decide
  refine ⟨List.count_eq_zero.mp ?_, ?_⟩
  · rw [Plan.count_orderBy hno_colon]
    rfl
  · rw [Plan.count_orderBy hno_comma]
    exact Nat.mul_one _

/-! ### The plan of a request -/

/-- Granted tokens are vetted, each with its fragment. -/
lemma exists_vetted {tokens : List Token} (hclean : ∀ t ∈ tokens, Token.IsClean t.field)
    (hplain : ∀ t ∈ tokens, Field.isCustom t.field = false) :
    ∃ accepted, List.Sublist accepted tokens ∧
      List.Forall₂ (Vetted e a) accepted (tokens.filterMap (Compile.granted? e a)) := by
  induction tokens with
  | nil => exact ⟨[], List.Sublist.slnil, List.Forall₂.nil⟩
  | cons t rest ih =>
      obtain ⟨accepted, hsub, hall⟩ := ih (fun t' h => hclean t' (List.mem_cons_of_mem t h))
        fun t' h => hplain t' (List.mem_cons_of_mem t h)
      rw [List.filterMap_cons]
      rcases hruling : Compile.ruling e a t with r | f
      · rw [Compile.granted?, hruling]
        exact ⟨accepted, hsub.cons t, hall⟩
      · obtain ⟨hallowed, hf⟩ := Compile.ruling_eq_ok hruling
        rw [Compile.granted?, hruling]
        refine ⟨t :: accepted, hsub.cons_cons t, List.Forall₂.cons ?_ hall⟩
        exact ⟨hallowed, hclean t List.mem_cons_self, hplain t List.mem_cons_self, hf⟩

/-- The tokens of a value have clean fields. -/
lemma clean_of_mem_tokens {raw : Value} {t : Token} (h : t ∈ Compile.tokens raw) :
    Token.IsClean t.field := by
  rw [Compile.tokens] at h
  split at h
  · exact Token.clean_of_mem_parse h
  · exact absurd h List.not_mem_nil

/-- Every term of a plan is that of a vetted token. -/
lemma exists_vetted_of_mem {g : Gate} {raw : Value} {p : Plan}
    (h : (Compile.compile e a g raw).result = .ok p) {f : Fragment} (hf : f ∈ p.fragments) :
    ∃ t, Vetted e a t f := by
  obtain ⟨hplain, t, ht, hgranted⟩ := Compile.exists_granted h hf
  obtain ⟨hallowed, heq⟩ := Compile.ruling_eq_ok (Compile.granted?_eq_some_iff.mp hgranted)
  exact ⟨t, hallowed, clean_of_mem_tokens ht, hplain t ht, heq⟩

/-- Whatever is asked for, the terms of a plan are those of vetted tokens, one for
each. If the name of the table has no colon and no comma, the text of the order has no
colon either, and a comma only between two terms. -/
theorem Compile.compile_vetted {g : Gate} {raw : Value} {p : Plan}
    (h : (compile e a g raw).result = .ok p) :
    (∃ accepted, List.Sublist accepted (tokens raw) ∧
      List.Forall₂ (Vetted e a) accepted p.fragments) ∧
    (',' ∉ e.table.name.toList → ':' ∉ e.table.name.toList →
      ':' ∉ p.orderBy.toList ∧ p.orderBy.toList.count ',' = p.fragments.length - 1) := by
  have hvetted : ∃ accepted, List.Sublist accepted (tokens raw) ∧
      List.Forall₂ (Vetted e a) accepted p.fragments := by
    rcases Request.fragments_of_plan (plan_of_compile_eq_ok e a h) with hnil | ⟨ts, hq, hp⟩
    · rw [hnil]
      exact ⟨[], List.nil_sublist _, List.Forall₂.nil⟩
    · obtain ⟨rfl, hplain⟩ := Request.tokens_of_columns hq
      rw [hp]
      exact exists_vetted (fun t => clean_of_mem_tokens) hplain
  refine ⟨hvetted, fun hcomma hcolon => ?_⟩
  obtain ⟨accepted, -, hall⟩ := hvetted
  exact separators_of_vetted hall hcomma hcolon

/-- Entries of an allow-list that no token can have let nothing through. -/
theorem Compile.compile_vetted_books :
    let e : Entity := ⟨⟨"Book", []⟩, .plain "books" ["id", "title"],
      [("author", .ok (.plain "author" "authors" "books" "author_id" false))]⟩
    let a : AllowList := ⟨["a,b", "x:y", " z ", "", "c_col", "title", "author__name"], []⟩
    let raw : Value := .text "a,b,x:y, z ,title:desc,author__name"
    let p : Plan := ⟨["author"],
      [⟨"books.title DESC", none⟩, ⟨"author.name ASC NULLS LAST", some "author"⟩], none⟩
    (compile e a ⟨.lenient, .recording⟩ raw).result = .ok p ∧
      (∃ accepted, List.Sublist accepted (tokens raw) ∧
        List.Forall₂ (Vetted e a) accepted p.fragments) ∧
      ':' ∉ p.orderBy.toList ∧ p.orderBy.toList.count ',' = 1 := by
  intro e a raw p
  have h : (compile e a ⟨.lenient, .recording⟩ raw).result = .ok p := by decide +kernel
  have hvetted := compile_vetted h
  exact ⟨h, hvetted.1, hvetted.2 (by decide) (by decide)⟩

end QueryOrder
