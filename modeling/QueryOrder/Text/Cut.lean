/-
Cutting a text at a mark.

* `cut`: the text before and after the first place where a mark stands;
* `pieces`: the texts between all the places where a character stands;
* `append_of_cut`: the mark joins the two halves of a cut again;
* `pieces_append`: a separator between two texts keeps their pieces apart.
-/

namespace QueryOrder.Text

/-! ### The first mark -/

/-- The text before and after the first place where the mark stands, if it
stands anywhere. The mark is one character or more. -/
def cut (mark : List Char) : List Char → Option (List Char × List Char)
  | [] => none
  | c :: s =>
    if mark.isPrefixOf (c :: s) then some ([], (c :: s).drop mark.length)
    else (cut mark s).map fun (before, after) => (c :: before, after)

/-- Nothing is lost by a cut: the mark joins the two halves again. -/
theorem append_of_cut {mark s before after : List Char} (h : cut mark s = some (before, after)) :
    s = before ++ mark ++ after := by
  induction s generalizing before with
  | nil => simp [cut] at h
  | cons c s ih =>
    rw [cut] at h
    split at h
    · next hm =>
      obtain ⟨rest, hr⟩ := List.isPrefixOf_iff_prefix.mp hm
      simp only [Option.some.injEq, Prod.mk.injEq] at h
      obtain ⟨rfl, rfl⟩ := h
      simp [← hr]
    · obtain ⟨⟨b, a⟩, hb, heq⟩ := Option.map_eq_some_iff.mp h
      simp only [Prod.mk.injEq] at heq
      obtain ⟨rfl, rfl⟩ := heq
      simp [ih hb]

/-! ### All separators -/

/-- The texts between the places where the separator stands. There is always
one more piece than there are separators. -/
def pieces (separator : Char) : List Char → List (List Char)
  | [] => [[]]
  | c :: s =>
    if c = separator then [] :: pieces separator s
    else match pieces separator s with
      | [] => [[c]]
      | piece :: rest => (c :: piece) :: rest

@[simp] theorem pieces_nil (separator : Char) : pieces separator [] = [[]] := rfl

/-- There is always a first piece. -/
theorem pieces_ne_nil (separator : Char) (s : List Char) : pieces separator s ≠ [] := by
  cases s with
  | nil => simp
  | cons c s =>
    rw [pieces]
    split
    · simp
    · split <;> simp

/-- A separator between two texts keeps their pieces apart. -/
theorem pieces_append (separator : Char) (s t : List Char) :
    pieces separator (s ++ separator :: t) = pieces separator s ++ pieces separator t := by
  induction s with
  | nil => simp [pieces]
  | cons c s ih =>
    rw [List.cons_append, pieces, pieces, ih]
    split
    · simp
    · rcases h : pieces separator s with _ | ⟨piece, rest⟩
      · exact absurd h (pieces_ne_nil separator s)
      · simp

/-! ### How a text starts -/

/-- Whether a text starts with another. -/
def startsWith (start s : String) : Bool :=
  start.toList.isPrefixOf s.toList

end QueryOrder.Text
