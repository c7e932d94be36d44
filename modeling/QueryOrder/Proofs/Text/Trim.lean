/-
Trimming, and what it keeps.

* `trim_append_blank`, `trim_blank_append`: blank characters at either end do not
  change what trimming leaves;
* `exists_pad`: a text is its trimmed form between blank characters;
* `trim_trim`: a trimmed text is left as it is;
* `mem_trim_iff`: a character that is not blank is never lost;
* `prefix_trim`: a text that starts with a trimmed one still does when it is trimmed
  itself;
* `prefix_trim_append_cons_iff`: what follows a mark does not decide how a trimmed text starts.
-/
import Mathlib.Data.List.DropRight
import Mathlib.Tactic.Common
import QueryOrder.Proofs.Text.Cut
import QueryOrder.Text.Blank

namespace QueryOrder.Text

/-! ### Blank ends -/

/-- Whether a text consists of blank characters. -/
def AllBlank (s : List Char) : Prop :=
  ∀ c ∈ s, isBlank c = true

instance (s : List Char) : Decidable (AllBlank s) :=
  decidable_of_iff (s.all isBlank = true) List.all_eq_true

/-- A character that is not blank does not occur in a blank text. -/
lemma AllBlank.notMem {s : List Char} (h : AllBlank s) {c : Char} (hc : isBlank c = false) :
    c ∉ s := by
  intro hmem
  rw [h c hmem] at hc
  exact absurd hc (by decide)

lemma trimEnd_append (s t : List Char) :
    trimEnd (s ++ t) = if trimEnd t = [] then trimEnd s else s ++ trimEnd t := by
  simp only [trimEnd, List.reverse_append, List.dropWhile_append, List.isEmpty_iff,
    List.reverse_eq_nil_iff]
  split <;> simp

/-- Blank characters at the end are trimmed. -/
lemma trimEnd_append_blank (s : List Char) {r : List Char} (hr : AllBlank r) :
    trimEnd (s ++ r) = trimEnd s := by
  rw [trimEnd_append, if_pos (trimEnd_eq_nil_iff.mpr hr)]

/-- Blank characters at the start are trimmed. -/
lemma trim_blank_append {l : List Char} (hl : AllBlank l) (s : List Char) :
    trim (l ++ s) = trim s := by
  rw [trim, trim, List.dropWhile_append_of_pos hl]

/-- Blank characters at the end are trimmed. -/
lemma trim_append_blank (s : List Char) {r : List Char} (hr : AllBlank r) :
    trim (s ++ r) = trim s := by
  rw [trim, trim, List.dropWhile_append]
  split
  · next h =>
    have hs : s.dropWhile isBlank = [] := List.isEmpty_iff.mp h
    have hrest : AllBlank (r.dropWhile isBlank) := fun c hc =>
      hr c ((List.dropWhile_sublist _).mem hc)
    rw [hs, trimEnd_nil, trimEnd_eq_nil_iff]
    exact hrest
  · exact trimEnd_append_blank _ hr

/-- A text is its trimmed form between blank characters. -/
lemma exists_pad (s : List Char) :
    ∃ l r, AllBlank l ∧ AllBlank r ∧ s = l ++ trim s ++ r := by
  refine ⟨s.takeWhile isBlank, (s.dropWhile isBlank).rtakeWhile isBlank,
    fun c hc => List.mem_takeWhile_imp hc, fun c hc => List.mem_rtakeWhile_imp hc, ?_⟩
  have h : trim s ++ (s.dropWhile isBlank).rtakeWhile isBlank = s.dropWhile isBlank :=
    List.rdropWhile_append_rtakeWhile ..
  rw [List.append_assoc, h, List.takeWhile_append_dropWhile]

/-- A trimmed text is left as it is. -/
lemma trim_trim (s : List Char) : trim (trim s) = trim s := by
  obtain ⟨l, r, hl, hr, hs⟩ := exists_pad s
  conv_rhs => rw [hs, trim_append_blank _ hr, trim_blank_append hl]

/-- A character that is not blank is never lost. -/
lemma mem_trim_iff {c : Char} (hc : isBlank c = false) {s : List Char} :
    c ∈ trim s ↔ c ∈ s := by
  obtain ⟨l, r, hl, hr, hs⟩ := exists_pad s
  conv_rhs => rw [hs]
  simp [hl.notMem hc, hr.notMem hc]

/-! ### Trimmed texts -/

/-- A trimmed text has no blank characters at its start. -/
lemma dropWhile_eq_self_of_trim {s : List Char} (h : trim s = s) : s.dropWhile isBlank = s := by
  have hle : (trim s).length ≤ (s.dropWhile isBlank).length := by
    have hsub := List.dropWhile_sublist isBlank (l := (s.dropWhile isBlank).reverse)
    simpa [trim, trimEnd] using hsub.length_le
  rw [h] at hle
  exact (List.dropWhile_sublist _).eq_of_length_le hle

/-- A trimmed text has no blank characters at its end. -/
lemma trimEnd_eq_self_of_trim {s : List Char} (h : trim s = s) : trimEnd s = s := by
  rw [trim, dropWhile_eq_self_of_trim h] at h
  exact h

/-- A text that starts with a trimmed one still does when it is trimmed itself. -/
lemma prefix_trim {s t : List Char} (hs : trim s = s) (hne : s ≠ []) (h : s <+: t) :
    s <+: trim t := by
  obtain ⟨rest, rfl⟩ := h
  have hdrop : (s ++ rest).dropWhile isBlank = s ++ rest := by
    rw [List.dropWhile_append, dropWhile_eq_self_of_trim hs, if_neg (by simpa using hne)]
  rw [trim, hdrop, trimEnd_append]
  split
  · exact ⟨[], by rw [List.append_nil, trimEnd_eq_self_of_trim hs]⟩
  · exact List.prefix_append ..

/-- To trim a text again after its leading blank characters are gone trims nothing more. -/
lemma trim_dropWhile (s : List Char) : trim (s.dropWhile isBlank) = trim s := by
  rw [trim, trim, List.dropWhile_idempotent]

/-- What is trimmed of a text is its end and its start. -/
lemma trim_start (s : List Char) : trim s <+: s.dropWhile isBlank :=
  List.rdropWhile_prefix isBlank (s.dropWhile isBlank)

/-- A text that is trimmed starts as what is before a mark does when that is trimmed, if the mark
is not blank and no part of the start. -/
lemma prefix_trim_append_cons_iff {start : List Char} (hs : trim start = start)
    (hne : start ≠ []) {m : Char} (hblank : isBlank m = false) (hm : m ∉ start)
    (a b : List Char) : start <+: trim (a ++ m :: b) ↔ start <+: trim a := by
  have hdrop : (a ++ m :: b).dropWhile isBlank = a.dropWhile isBlank ++ m :: b := by
    rw [List.dropWhile_append]
    split
    · next h => rw [List.isEmpty_iff.mp h, List.dropWhile_cons_of_neg (by simp [hblank]),
        List.nil_append]
    · rfl
  constructor
  · intro h
    have hmark : start <+: a.dropWhile isBlank ++ m :: b := hdrop ▸ h.trans (trim_start _)
    rw [← trim_dropWhile]
    exact prefix_trim hs hne (prefix_of_prefix_append_cons hm hmark)
  · intro h
    rw [← trim_dropWhile, hdrop]
    exact prefix_trim hs hne ((h.trans (trim_start a)).trans (List.prefix_append ..))

end QueryOrder.Text
