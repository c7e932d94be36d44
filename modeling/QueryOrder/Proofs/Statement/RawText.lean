/-
How texts of their own are written.

* `chars`, `sql_eq`: a text as it is written, on its characters;
* `IsBreak`: a character at which a text comes apart, since it belongs to no placeholder;
* `chars_append_break`, `sql_intercalate`: parts with breaks between them are written one by
  one;
* `sql_of_plain`: a text without special characters is written as it is;
* `count_quote_sql`: no quotes come or go.
-/
import Mathlib.Tactic.Common
import QueryOrder.Statement.RawText

namespace QueryOrder.RawText

/-! ### Texts as characters -/

/-- A character with its percent sign doubled. -/
def doubled (c : Char) : List Char :=
  if c = '%' then ['%', '%'] else [c]

/-- A text as it is written, on its characters. -/
def chars (s : List Char) : List Char :=
  unescape ((pieces 0 none (s.flatMap doubled)).flatMap Piece.sql)

lemma sql_eq (text : String) : sql text = String.ofList (chars text.toList) := by
  rw [sql, chars, escapePercent, String.toList_ofList]
  rfl

lemma toList_sql (text : String) : (sql text).toList = chars text.toList := by
  rw [sql_eq, String.toList_ofList]

/-- The name of the placeholder that a character starts, if it starts one. -/
def nameAt (before : Option Char) (c : Char) (s : List Char) : List Char :=
  if c = ':' && startsAfter before then nameAfterColon s else []

lemma pieces_zero (before : Option Char) (c : Char) (s : List Char) :
    pieces 0 before (c :: s) =
      if (nameAt before c s).isEmpty then .char c :: pieces 0 (some c) s
      else .placeholder (nameAt before c s) :: pieces (nameAt before c s).length (some c) s :=
  rfl

/-- A placeholder has the name characters that follow the colon. -/
lemma nameAt_eq (before : Option Char) (c : Char) (s : List Char) :
    nameAt before c s = [] ∨ c = ':' ∧ nameAt before c s = s.takeWhile isNameChar := by
  rw [nameAt]
  split
  · next hstart =>
    rw [nameAfterColon]
    split
    · exact .inl rfl
    · exact .inr ⟨by simpa using (Bool.and_eq_true_iff.mp hstart).1, rfl⟩
  · exact .inl rfl

lemma length_nameAt (before : Option Char) (c : Char) (s : List Char) :
    (nameAt before c s).length ≤ s.length := by
  rcases nameAt_eq before c s with h | ⟨-, h⟩
  · rw [h]
    exact Nat.zero_le _
  · rw [h]
    exact (List.takeWhile_prefix isNameChar).length_le

/-! ### Breaks -/

/-- A character at which a text comes apart: it is in no placeholder, starts none, and
belongs to nothing that is written in another way. -/
structure IsBreak (c : Char) : Prop where
  notName : isNameChar c = false
  notColon : c ≠ ':'
  notBackslash : c ≠ '\\'
  notPercent : c ≠ '%'

lemma isBreak_dot : IsBreak '.' := ⟨by decide +kernel, by decide, by decide, by decide⟩

lemma isBreak_comma : IsBreak ',' := ⟨by decide +kernel, by decide, by decide, by decide⟩

lemma isBreak_space : IsBreak ' ' := ⟨by decide +kernel, by decide, by decide, by decide⟩

variable {c : Char}

/-- A name ends at a break. -/
lemma takeWhile_append_break (hc : IsBreak c) (a b : List Char) :
    (a ++ c :: b).takeWhile isNameChar = a.takeWhile isNameChar := by
  induction a with
  | nil => simp [hc.notName]
  | cons d a ih => by_cases hd : isNameChar d = true <;> simp [hd, ih]

/-- After a name there is a colon before a break exactly if there is one at all. -/
lemma head_append_break (hc : IsBreak c) (a b : List Char) :
    ((a ++ c :: b).dropWhile isNameChar).head? = some ':' ↔
      (a.dropWhile isNameChar).head? = some ':' := by
  induction a with
  | nil => simp [hc.notName, hc.notColon]
  | cons d a ih => by_cases hd : isNameChar d = true <;> simp [hd, ih]

/-- A placeholder is over before a break. -/
lemma nameAt_append_break (hc : IsBreak c) (before : Option Char) (d : Char) (a b : List Char) :
    nameAt before d (a ++ c :: b) = nameAt before d a := by
  rw [nameAt, nameAt, nameAfterColon, nameAfterColon, takeWhile_append_break hc]
  simp only [head_append_break hc]

/-- After a break a text starts anew. -/
lemma pieces_after_break (hc : IsBreak c) (s : List Char) :
    pieces 0 (some c) s = pieces 0 none s := by
  have hstart : startsAfter (some c) = startsAfter none := by
    simp [startsAfter, hc.notName, hc.notColon, hc.notBackslash]
  cases s with
  | nil => rfl
  | cons d s => rw [pieces, pieces, hstart]

/-- The pieces of a text with a break are those of its two sides. -/
lemma pieces_append_break (hc : IsBreak c) (b : List Char) {a : List Char} {skip : Nat}
    (hskip : skip ≤ a.length) (before : Option Char) :
    pieces skip before (a ++ c :: b) = pieces skip before a ++ .char c :: pieces 0 none b := by
  induction a generalizing skip before with
  | nil =>
      obtain rfl : skip = 0 := Nat.le_zero.mp hskip
      have hname : nameAt before c b = [] :=
        (nameAt_eq before c b).resolve_right fun h => hc.notColon h.1
      rw [List.nil_append, pieces_zero, hname, pieces_after_break hc]
      rfl
  | cons d a ih =>
      rw [List.cons_append]
      rcases skip with _ | skip
      · rw [pieces_zero, pieces_zero, nameAt_append_break hc, ih (Nat.zero_le _),
          ih (length_nameAt before d a)]
        split <;> rfl
      · exact ih (Nat.le_of_succ_le_succ hskip) (some d)

/-- A backslash goes by what stands between it and a break. -/
lemma keepsColon_append_break (hc : IsBreak c) (a b : List Char) :
    keepsColon (a ++ c :: b) = keepsColon a := by
  cases a with
  | nil =>
      rw [List.nil_append, keepsColon.eq_def, keepsColon.eq_def]
      split
      · next s heq => exact absurd (List.cons.inj heq).1 hc.notColon
      · rfl
  | cons d a =>
      by_cases hd : d = ':'
      · subst hd
        rw [List.cons_append, keepsColon, keepsColon]
        simp only [ne_eq, head_append_break hc]
      · rw [List.cons_append, keepsColon.eq_def, keepsColon.eq_def]
        simp [hd]

lemma unescape_append_break (hc : IsBreak c) (a b : List Char) :
    unescape (a ++ c :: b) = unescape a ++ c :: unescape b := by
  induction a with
  | nil => simp [unescape, hc.notBackslash]
  | cons d a ih =>
      rw [List.cons_append, unescape, unescape, keepsColon_append_break hc, ih]
      split
      · rfl
      · rw [List.cons_append]

/-- A text with a break is written side by side. -/
lemma chars_append_break (hc : IsBreak c) (a b : List Char) :
    chars (a ++ c :: b) = chars a ++ c :: chars b := by
  have hdoubled : (a ++ c :: b).flatMap doubled = a.flatMap doubled ++ c :: b.flatMap doubled := by
    simp [doubled, hc.notPercent]
  rw [chars, hdoubled, pieces_append_break hc _ (Nat.zero_le _), List.flatMap_append,
    List.flatMap_cons]
  exact unescape_append_break hc _ _

/-- Breaks between two texts leave each of them as it would be written alone. -/
lemma sql_append_breaks (a b : String) {separator : String}
    (hne : separator ≠ "") (h : ∀ c ∈ separator.toList, IsBreak c) :
    sql (a ++ separator ++ b) = sql a ++ separator ++ sql b := by
  have key : ∀ (breaks a b : List Char), breaks ≠ [] → (∀ c ∈ breaks, IsBreak c) →
      chars (a ++ breaks ++ b) = chars a ++ breaks ++ chars b := by
    intro breaks
    induction breaks with
    | nil => exact fun a b hne => absurd rfl hne
    | cons c rest ih =>
        intro a b _ hall
        have hc : IsBreak c := hall c List.mem_cons_self
        have hstep : chars (a ++ c :: rest ++ b) = chars a ++ c :: chars (rest ++ b) := by
          rw [List.append_assoc, List.cons_append, chars_append_break hc]
        rcases hrest : rest with _ | ⟨d, rest'⟩
        · subst hrest
          rw [hstep]
          simp
        · have hmore := ih [] b (by simp [hrest]) fun d hd => hall d (List.mem_cons_of_mem c hd)
          rw [List.nil_append] at hmore
          rw [← hrest, hstep, hmore]
          simp [chars, pieces, unescape]
  rw [← String.toList_inj]
  simp only [String.toList_append, toList_sql]
  refine key _ _ _ (fun hnil => hne ?_) h
  rw [← String.toList_inj, hnil]
  rfl

/-- Terms with breaks between them are written one by one. -/
lemma sql_intercalate {separator : String} (hne : separator ≠ "")
    (h : ∀ c ∈ separator.toList, IsBreak c) (texts : List String) :
    sql (separator.intercalate texts) = separator.intercalate (texts.map sql) := by
  induction texts with
  | nil =>
      have hempty : sql "" = "" := by decide +kernel
      simpa using hempty
  | cons t rest ih =>
      rcases rest with _ | ⟨t', rest⟩
      · simp
      · rw [String.intercalate_cons_cons, sql_append_breaks _ _ hne h, ih]
        simp only [List.map_cons, String.intercalate_cons_cons]

/-! ### Texts without special characters -/

/-- A text without special characters is written as it is. -/
lemma sql_of_plain {text : String}
    (h : ∀ c ∈ text.toList, c ≠ ':' ∧ c ≠ '\\' ∧ c ≠ '%') : sql text = text := by
  have hdoubled : ∀ s : List Char, (∀ c ∈ s, c ≠ '%') → s.flatMap doubled = s := by
    intro s hs
    induction s with
    | nil => rfl
    | cons c s ih =>
        rw [List.flatMap_cons, ih fun d hd => hs d (List.mem_cons_of_mem c hd), doubled,
          if_neg (hs c List.mem_cons_self)]
        rfl
  have hpieces : ∀ (s : List Char) (before : Option Char), (∀ c ∈ s, c ≠ ':') →
      (pieces 0 before s).flatMap Piece.sql = s := by
    intro s
    induction s with
    | nil => exact fun _ _ => rfl
    | cons c s ih =>
        intro before hs
        have hrest := ih (some c) fun d hd => hs d (List.mem_cons_of_mem c hd)
        simp [pieces, hs c List.mem_cons_self, Piece.sql, hrest]
  have hunescape : ∀ s : List Char, (∀ c ∈ s, c ≠ '\\') → unescape s = s := by
    intro s hs
    induction s with
    | nil => rfl
    | cons c s ih =>
        rw [unescape, ih fun d hd => hs d (List.mem_cons_of_mem c hd)]
        simp [hs c List.mem_cons_self]
  have hchars : chars text.toList = text.toList := by
    rw [chars, hdoubled _ fun c hc => (h c hc).2.2, hpieces _ _ fun c hc => (h c hc).1,
      hunescape _ fun c hc => (h c hc).2.1]
  rw [sql_eq, hchars, String.ofList_toList]

/-! ### Quotes -/

/-- A placeholder is written without quotes. -/
lemma count_quote_placeholder {name : List Char} (h : ∀ c ∈ name, isNameChar c = true) :
    (Piece.placeholder name).sql.count '"' = 0 := by
  have hescape : ∀ c, isNameChar c = true → Placeholder.escape c ≠ '"' := by
    intro c hc
    rw [Placeholder.escape]
    split
    · decide
    · split
      · decide
      · rintro rfl
        exact absurd hc (by decide +kernel)
  rw [List.count_eq_zero, Piece.sql, Placeholder.sql]
  simp only [String.toList_append, String.toList_ofList, List.mem_append, List.mem_map, not_or,
    not_exists, not_and]
  exact ⟨⟨by decide, fun c hc => hescape c (h c hc)⟩, by decide⟩

/-- Without the name after a colon a text has all its quotes. -/
lemma count_quote_drop_name (s : List Char) :
    (s.drop (s.takeWhile isNameChar).length).count '"' = s.count '"' := by
  have htaken : (s.takeWhile isNameChar).count '"' = 0 := by
    rw [List.count_eq_zero]
    exact fun hquote =>
      absurd (List.all_eq_true.mp List.all_takeWhile _ hquote) (by decide +kernel)
  obtain ⟨rest, hrest⟩ := List.takeWhile_prefix isNameChar (l := s)
  generalize s.takeWhile isNameChar = name at htaken hrest ⊢
  subst hrest
  rw [List.drop_left, List.count_append, htaken, Nat.zero_add]

/-- The pieces of a text have its quotes. -/
lemma count_quote_pieces (s : List Char) (skip : Nat) (before : Option Char) :
    ((pieces skip before s).flatMap Piece.sql).count '"' = (s.drop skip).count '"' := by
  induction s generalizing skip before with
  | nil => simp [pieces]
  | cons c s ih =>
      rcases skip with _ | skip
      · rw [pieces_zero]
        split
        · rw [List.flatMap_cons, List.count_append, ih]
          simp [Piece.sql, List.count_cons, Nat.add_comm]
        · next hname =>
          rcases nameAt_eq before c s with hnone | ⟨rfl, htaken⟩
          · exact absurd (by rw [hnone]; rfl) hname
          · have hplain : ∀ d ∈ s.takeWhile isNameChar, isNameChar d = true :=
              fun d hd => List.all_eq_true.mp List.all_takeWhile d hd
            rw [htaken, List.flatMap_cons, List.count_append, ih, count_quote_placeholder hplain,
              count_quote_drop_name]
            simp
      · exact ih skip (some c)

/-- To take backslashes away takes no quotes. -/
lemma count_quote_unescape (s : List Char) : (unescape s).count '"' = s.count '"' := by
  induction s with
  | nil => rfl
  | cons c s ih =>
      rw [unescape]
      split
      · next h =>
        have hc : c = '\\' := by simpa using (Bool.and_eq_true_iff.mp h).1
        rw [ih, hc]
        simp
      · rw [List.count_cons, List.count_cons, ih]

/-- A text is written with the quotes that it has. -/
lemma count_quote_sql (text : String) :
    (sql text).toList.count '"' = text.toList.count '"' := by
  have hdoubled : ∀ s : List Char, (s.flatMap doubled).count '"' = s.count '"' := by
    intro s
    induction s with
    | nil => rfl
    | cons c s ih =>
        have hc : (doubled c).count '"' = [c].count '"' := by
          rw [doubled]
          split
          · next h =>
            rw [h]
            rfl
          · rfl
        rw [List.flatMap_cons, List.count_append, ih, hc, ← List.count_append]
        rfl
  rw [toList_sql, chars, count_quote_unescape, count_quote_pieces, List.drop_zero, hdoubled]

end QueryOrder.RawText
