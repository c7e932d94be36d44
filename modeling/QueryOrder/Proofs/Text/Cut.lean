/-
Where a text is cut.

* `FirstMark`: a mark stands between two texts, and nowhere earlier;
* `cut_eq_some_iff`, `cut_eq_none_iff`: a text is cut at its first mark, and it is not
  cut exactly if it has none;
* `firstMark_append_iff`: when a doubled character that is put between two texts is the first
  one there;
* `cut_append_mark`, `cut_append_cons`, `cut_of_notMem`: the same by the first character of
  the mark alone;
* `pieces_of_notMem`, `notMem_of_mem_pieces`: no piece has a separator in it, and a
  text without one is its only piece;
* `parts`, `parts_intercalate`: the texts between the places of a longer mark, and that texts
  which are joined by it are told apart again.
-/
import Mathlib.Tactic.Common
import QueryOrder.Text.Cut

namespace QueryOrder.Text

/-! ### The first mark -/

/-- A mark stands between two texts, and nowhere earlier. -/
structure FirstMark (mark s before after : List Char) : Prop where
  eq : s = before ++ mark ++ after
  first : ∀ b a, s = b ++ mark ++ a → before.length ≤ b.length

/-- There is one first place. -/
lemma FirstMark.unique {mark s b b' a a' : List Char} (h : FirstMark mark s b a)
    (h' : FirstMark mark s b' a') : b = b' ∧ a = a' := by
  have hlen : b.length = b'.length :=
    Nat.le_antisymm (h.first b' a' h'.eq) (h'.first b a h.eq)
  have heq : b ++ (mark ++ a) = b' ++ (mark ++ a') := by
    rw [← List.append_assoc, ← List.append_assoc, ← h.eq, ← h'.eq]
  obtain ⟨hb, ha⟩ := List.append_inj heq hlen
  exact ⟨hb, List.append_cancel_left ha⟩

/-- A text is cut at its first mark. -/
lemma firstMark_of_cut {mark s before after : List Char} (h : cut mark s = some (before, after)) :
    FirstMark mark s before after := by
  refine ⟨append_of_cut h, ?_⟩
  induction s generalizing before with
  | nil => simp [cut] at h
  | cons c s ih =>
      intro b a hba
      rw [cut] at h
      split at h
      · simp only [Option.some.injEq, Prod.mk.injEq] at h
        simp [← h.1]
      · next hm =>
        obtain ⟨⟨b', a'⟩, hcut, heq⟩ := Option.map_eq_some_iff.mp h
        simp only [Prod.mk.injEq] at heq
        obtain ⟨rfl, rfl⟩ := heq
        cases b with
        | nil =>
            rw [List.nil_append] at hba
            exact absurd (List.isPrefixOf_iff_prefix.mpr ⟨a, hba.symm⟩) hm
        | cons d b =>
            simp only [List.cons_append, List.cons.injEq] at hba
            simpa using ih hcut b a hba.2

/-- A text is not cut exactly if it has no mark. -/
lemma cut_eq_none_iff {mark s : List Char} (hm : mark ≠ []) :
    cut mark s = none ↔ ∀ b a, s ≠ b ++ mark ++ a := by
  constructor
  · induction s with
    | nil => intro _ b a hba; simp [hm] at hba
    | cons c s ih =>
        intro h b a hba
        rw [cut] at h
        split at h
        · exact absurd h (by simp)
        · next hprefix =>
          cases b with
          | nil => exact hprefix (List.isPrefixOf_iff_prefix.mpr ⟨a, hba.symm⟩)
          | cons d b =>
              simp only [List.cons_append, List.cons.injEq] at hba
              exact ih (Option.map_eq_none_iff.mp h) b a hba.2
  · intro h
    rcases hc : cut mark s with _ | ⟨b, a⟩
    · rfl
    · exact absurd (append_of_cut hc) (h b a)

/-- A text is cut at its first mark, wherever that is. -/
lemma cut_eq_some_iff {mark s before after : List Char} (hm : mark ≠ []) :
    cut mark s = some (before, after) ↔ FirstMark mark s before after := by
  refine ⟨firstMark_of_cut, fun h => ?_⟩
  rcases hc : cut mark s with _ | ⟨b, a⟩
  · exact absurd h.eq ((cut_eq_none_iff hm).mp hc before after)
  · obtain ⟨rfl, rfl⟩ := h.unique (firstMark_of_cut hc)
    rfl

/-- A doubled character that is put between two texts is the first one there exactly if the text
before it neither has one of its own nor makes one with it, by ending in the character. -/
lemma firstMark_append_iff {m : Char} {before after : List Char} :
    FirstMark [m, m] (before ++ [m, m] ++ after) before after ↔
      (∀ b a, before ≠ b ++ [m, m] ++ a) ∧ ∀ b, before ≠ b ++ [m] := by
  constructor
  · intro h
    constructor
    · rintro b a rfl
      have hle := h.first b (a ++ [m, m] ++ after) (by simp)
      simp only [List.length_append, List.length_cons, List.length_nil] at hle
      omega
    · rintro b rfl
      have hle := h.first b (m :: after) (by simp)
      simp only [List.length_append, List.length_cons, List.length_nil] at hle
      omega
  · rintro ⟨hmark, hend⟩
    refine ⟨rfl, fun b a heq => ?_⟩
    by_contra hlt
    -- what an earlier mark leaves of the text before starts with one or both of its characters
    rw [List.append_assoc, List.append_assoc] at heq
    obtain ⟨rest, rfl⟩ : b <+: before :=
      List.prefix_of_prefix_length_le ⟨[m, m] ++ a, heq.symm⟩ (List.prefix_append ..) (by omega)
    rw [List.append_assoc, List.append_cancel_left_eq] at heq
    match rest with
    | [] => simp at hlt
    | [c] =>
        obtain rfl : c = m := (List.cons.inj heq).1
        exact hend b rfl
    | c :: d :: rest =>
        obtain ⟨rfl, htail⟩ := List.cons.inj heq
        obtain ⟨rfl, -⟩ := List.cons.inj htail
        exact hmark b rest (by simp)

/-- A text is cut at the first place of a mark, if the first character of the mark does not occur
before it. -/
lemma cut_append_mark {m : Char} {before : List Char} (h : m ∉ before) (rest after : List Char) :
    cut (m :: rest) (before ++ m :: (rest ++ after)) = some (before, after) := by
  induction before with
  | nil => simp [cut]
  | cons c s ih =>
      rw [List.mem_cons, not_or] at h
      simp [cut, h.1, ih h.2]

/-- A text is cut at the first place of a character. -/
lemma cut_append_cons {m : Char} {before : List Char} (h : m ∉ before) (after : List Char) :
    cut [m] (before ++ m :: after) = some (before, after) :=
  cut_append_mark h [] after

/-- A text without the first character of a mark is not cut at the mark. -/
lemma cut_of_notMem {m : Char} {rest s : List Char} (h : m ∉ s) : cut (m :: rest) s = none := by
  refine (cut_eq_none_iff (List.cons_ne_nil m rest)).mpr fun b a hba => h ?_
  rw [hba]
  simp

/-- What is before the first place of a character keeps any start of the text that
does without it. -/
lemma prefix_of_prefix_append_cons {m : Char} {start s t : List Char} (hm : m ∉ start)
    (h : start <+: s ++ m :: t) : start <+: s := by
  rcases Nat.le_total start.length s.length with hle | hle
  · exact List.prefix_of_prefix_length_le h (List.prefix_append ..) hle
  · have hs : s <+: start := List.prefix_of_prefix_length_le (List.prefix_append ..) h hle
    obtain ⟨rest, rfl⟩ := hs
    have hrest : rest <+: m :: t := (List.prefix_append_right_inj s).mp h
    cases rest with
    | nil => simp
    | cons c rest =>
        rw [List.cons_prefix_cons] at hrest
        exact absurd (by simp [hrest.1]) hm

/-! ### Pieces -/

/-- A text without a separator is its only piece. -/
lemma pieces_of_notMem {separator : Char} {s : List Char} (h : separator ∉ s) :
    pieces separator s = [s] := by
  induction s with
  | nil => rfl
  | cons c s ih =>
      rw [List.mem_cons, not_or] at h
      rw [pieces, if_neg (Ne.symm h.1), ih h.2]

/-- No piece has a separator in it. -/
lemma notMem_of_mem_pieces {separator : Char} {s piece : List Char}
    (h : piece ∈ pieces separator s) : separator ∉ piece := by
  induction s generalizing piece with
  | nil => simp_all
  | cons c s ih =>
      rw [pieces] at h
      split at h
      · rcases List.mem_cons.mp h with rfl | h
        · exact List.not_mem_nil
        · exact ih h
      · next hc =>
        rcases hp : pieces separator s with _ | ⟨first, rest⟩
        · exact absurd hp (pieces_ne_nil separator s)
        · rw [hp] at h ih
          rcases List.mem_cons.mp h with rfl | h
          · simpa [Ne.symm hc] using ih List.mem_cons_self
          · exact ih (List.mem_cons_of_mem _ h)

/-! ### Longer separators -/

/-- The texts between the places where a mark stands, each of them the first one after the
place before it. The mark has a first character and a rest. -/
def parts (m : Char) (rest s : List Char) : List (List Char) :=
  match h : cut (m :: rest) s with
  | some (before, after) =>
    have : after.length < s.length := by
      rw [append_of_cut h]
      simp only [List.length_append, List.length_cons]
      omega
    before :: parts m rest after
  | none => [s]
termination_by s.length

lemma parts_of_notMem {m : Char} {rest s : List Char} (h : m ∉ s) : parts m rest s = [s] := by
  rw [parts]
  split
  · next before after hcut =>
    rw [cut_of_notMem h] at hcut
    cases hcut
  · rfl

lemma parts_append_mark {m : Char} {before : List Char} (h : m ∉ before)
    (rest after : List Char) :
    parts m rest (before ++ m :: (rest ++ after)) = before :: parts m rest after := by
  rw [parts]
  split
  · next before' after' hcut =>
    rw [cut_append_mark h] at hcut
    cases hcut
    rfl
  · next hcut =>
    rw [cut_append_mark h] at hcut
    cases hcut

/-- Texts that are joined by a mark are told apart again, if its first character does not occur
in any of them. -/
lemma parts_intercalate {m : Char} {rest : List Char} {texts : List (List Char)}
    (hne : texts ≠ []) (h : ∀ t ∈ texts, m ∉ t) :
    parts m rest ((m :: rest).intercalate texts) = texts := by
  induction texts with
  | nil => exact absurd rfl hne
  | cons t texts ih =>
      have ht : m ∉ t := h t List.mem_cons_self
      cases texts with
      | nil => rw [List.intercalate_singleton, parts_of_notMem ht]
      | cons u texts =>
          have hrest : parts m rest ((m :: rest).intercalate (u :: texts)) = u :: texts :=
            ih (List.cons_ne_nil u texts) fun t' ht' => h t' (List.mem_cons_of_mem t ht')
          calc parts m rest ((m :: rest).intercalate (t :: u :: texts))
              = parts m rest (t ++ m :: (rest ++ (m :: rest).intercalate (u :: texts))) := by
                rw [List.intercalate_cons_cons]
                simp
            _ = t :: parts m rest ((m :: rest).intercalate (u :: texts)) :=
                parts_append_mark ht rest _
            _ = t :: u :: texts := by rw [hrest]

end QueryOrder.Text
