/-
What a statement reads from, and the names by which it does.

* `Identifier.sql_of_plain`, `Identifier.sql_eq_iff`, `Identifier.count_quote_sql`: names
  that need no quotes are written as they are, and others with two more quotes at least;
* `Item`, `Source.items`: the tables and the joins of a source, each with the name that it
  goes by in the statement;
* `Statement.sources_of_own`: joins that all belong to the rows of the statement make one
  source with them;
* `Statement.sql_of_text`: the text of a selection of all rows, with its joins and with one
  text for its order.
-/
import Mathlib.Tactic.Common
import QueryOrder.Statement.Sql

namespace QueryOrder

/-! ### Names with and without quotes -/

namespace Identifier

variable {name other : String}

/-- A name that needs no quotes has no special characters. -/
lemma clean_of_plain (h : needsQuotes name = false) :
    ∀ c ∈ name.toList, c ≠ ':' ∧ c ≠ '\\' ∧ c ≠ '%' ∧ c ≠ '"' := by
  have hplain : ∀ c ∈ withoutLineFeed name.toList, isPlain c = true := by
    have hall : (withoutLineFeed name.toList).all isPlain = true := by
      rw [needsQuotes, Bool.or_eq_false_iff, Bool.or_eq_false_iff] at h
      simpa using h.1.2
    exact List.all_eq_true.mp hall
  have hmem : ∀ c ∈ name.toList, c ∈ withoutLineFeed name.toList ∨ c = '\n' := by
    intro c hc
    rw [withoutLineFeed]
    split
    · next hlast =>
      obtain ⟨rest, hrest⟩ := List.getLast?_eq_some_iff.mp hlast
      rw [hrest] at hc ⊢
      rw [List.dropLast_concat]
      rcases List.mem_append.mp hc with hc | hc
      · exact .inl hc
      · exact .inr (List.mem_singleton.mp hc)
    · exact .inl hc
  intro c hc
  rcases hmem c hc with hc | rfl
  · have hc' := hplain c hc
    refine ⟨?_, ?_, ?_, ?_⟩ <;> rintro rfl <;> exact absurd hc' (by decide +kernel)
  · decide

/-- A name that needs no quotes is written as it is. -/
lemma sql_of_plain (h : needsQuotes name = false) : sql name = name := by
  rw [sql, h]
  rfl

/-- A name that needs quotes is written between two of them, with its own doubled. -/
lemma count_quote_sql (h : needsQuotes name = true) :
    (sql name).toList.count '"' = 2 * name.toList.count '"' + 2 := by
  have hpercent : ∀ s : List Char,
      (s.flatMap fun c => if c = '%' then ['%', '%'] else [c]).count '"' = s.count '"' := by
    intro s
    induction s with
    | nil => rfl
    | cons c s ih =>
        rw [List.flatMap_cons, List.count_append, ih]
        split
        · next hc => simp [hc]
        · simp [List.count_cons, Nat.add_comm]
  have hdoubled : ∀ s : List Char,
      (s.flatMap fun c => if c = '"' then ['"', '"'] else [c]).count '"' = 2 * s.count '"' := by
    intro s
    induction s with
    | nil => rfl
    | cons c s ih =>
        rw [List.flatMap_cons, List.count_append, ih]
        split
        · next hc =>
          subst hc
          simp
          omega
        · next hc => simp [hc]
  rw [sql, if_pos h, escapePercent]
  simp only [String.toList_ofList, hpercent, List.count_cons_self, List.count_append,
    hdoubled, List.count_nil]

/-- Only the name itself is written as a name that needs no quotes. -/
lemma sql_eq_iff (h : needsQuotes other = false) : sql name = other ↔ name = other := by
  constructor
  · intro hsql
    by_cases hquotes : needsQuotes name = true
    · -- what is written with quotes is no name without them
      have hcount : other.toList.count '"' = 0 :=
        List.count_eq_zero.mpr fun hmem => (clean_of_plain h _ hmem).2.2.2 rfl
      have hwritten := count_quote_sql hquotes
      rw [hsql, hcount] at hwritten
      omega
    · rw [← hsql, sql_of_plain (by simpa using hquotes)]
  · rintro rfl
    exact sql_of_plain h

end Identifier

/-! ### What goes by a name -/

/-- What a statement reads from under a name. -/
inductive Item where
  | table (name : String)
  | join (j : Join)
deriving DecidableEq, Repr

/-- The name that an item goes by, as it is written. -/
def Item.written : Item → String
  | table name => Identifier.sql name
  | join j => Identifier.sql j.name

/-- The tables of a source, the nearest first, and the joins that are made on them, in order. -/
def Source.items (source : Source) : List Item :=
  source.rows.tables.map .table ++ source.joins.map .join

/-! ### One source -/

/-- Rows are in the source that starts with them. -/
lemma Source.holds_rows (rows : Rows) (js : List Join) :
    rows.tables.any rows.tables.contains = true ∧ (Source.mk rows js).holds rows = true := by
  have hany : rows.tables.any rows.tables.contains = true := by simp [Rows.tables]
  exact ⟨hany, by simp [holds, hany]⟩

namespace Statement

/-- Joins of rows are added to the source that starts with these. -/
lemma foldlM_place {own rows : Rows} {js : List Join} (h : ∀ j ∈ js, j.source = rows)
    (before : List Join) :
    js.foldlM (Source.place own) [⟨rows, before⟩] = .ok [⟨rows, before ++ js⟩] := by
  induction js generalizing before with
  | nil =>
      rw [List.append_nil]
      rfl
  | cons j js ih =>
      have hplace : Source.place own [⟨rows, before⟩] j = .ok [⟨rows, before ++ [j]⟩] := by
        rw [Source.place, h j List.mem_cons_self]
        simp [Source.candidates, Source.holds_rows, Source.join]
      rw [List.foldlM_cons, hplace]
      have hrest := ih (fun j' hj' => h j' (List.mem_cons_of_mem j hj')) (before ++ [j])
      rw [List.append_assoc] at hrest
      exact hrest

/-- Joins that all belong to the rows of a statement make one source with them. -/
lemma sources_of_own {s : Statement} (h : ∀ j ∈ s.joins, j.source = s.table.rows) :
    s.sources = .ok [⟨s.table.rows, s.joins⟩] := by
  rcases hjs : s.joins with _ | ⟨j, js⟩
  · rw [sources, hjs]
    rfl
  · have hj : j.source = s.table.rows := h j (by simp [hjs])
    have hplace : Source.place s.table.rows [] j = .ok [⟨s.table.rows, [j]⟩] := by
      rw [Source.place, hj]
      simp [Source.candidates]
    have hfold : (j :: js).foldlM (Source.place s.table.rows) [] =
        .ok [⟨s.table.rows, j :: js⟩] := by
      rw [List.foldlM_cons, hplace]
      exact foldlM_place (fun j' hj' => h j' (by simp [hjs, hj'])) [j]
    rw [sources, hjs, hfold]
    -- none of the tables of the statement is missing
    simp [bind, Except.bind, pure, Except.pure]

/-- The text of a selection of all rows that has joins on its own rows, and one text for
its order. -/
lemma sql_of_text {table : Table} {js : List Join} {order : String}
    (h : ∀ j ∈ js, j.source = table.rows) (hne : RawText.sql order ≠ "") :
    sql { all table with joins := js, order := [.text order] } =
      .ok ("SELECT " ++ ", ".intercalate table.selectedSql ++
        " \nFROM " ++ Source.sql ⟨table.rows, js⟩ ++ " ORDER BY " ++ RawText.sql order) := by
  have hsources : sources { all table with joins := js, order := [.text order] }
      = .ok [⟨table.rows, js⟩] := sources_of_own h
  have hfault : fault? { all table with joins := js, order := [.text order] } = none := by
    simp [fault?, namedColumns, conditions, Filter.written, all, placeholders, Placeholder.names,
      Placeholder.numbered, Placeholder.shortened, OrderTerm.column?]
  have horder : orderSql { all table with joins := js, order := [.text order] }
      = [RawText.sql order] := by
    simp [orderSql, OrderTerm.sql, hne]
  rw [sql, hsources]
  simp only [bind, Except.bind, hfault]
  refine congrArg Except.ok ?_
  rw [text, horder]
  simp [clause, conditions, Filter.written, filtersSql, all, String.append_assoc]

end Statement

end QueryOrder
