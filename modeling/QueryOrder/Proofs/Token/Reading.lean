/-
What the reading of a sort specification gives.

* `split_of_no_colon`, `split_append_colon`: a piece with and without a direction;
* `split_blank_append`, `split_append_blank`, `split_trimmed`: blank characters around a piece
  do not matter;
* `parse_trimmed`: nor do they around a specification;
* `Token.IsClean`, `clean_of_mem_parse`: the field of every token is trimmed and not
  empty, and has neither a comma nor a colon in it;
* `parse_of_no_comma`: a specification without a comma has at most one token;
* `parse_eq_cons_of_isCustom`, `not_isCustom_trimmed`, `isCustom_trimmed_of_mem_parse`: a
  specification that starts as a custom ordering has one as its first token, and one that
  consists of a custom ordering starts as one.
-/
import QueryOrder.Proofs.Field
import QueryOrder.Proofs.Text.Trim
import QueryOrder.Token

namespace QueryOrder

open Text (AllBlank trim)

namespace Token

/-! ### Pieces -/

/-- A piece without a colon is all field. -/
lemma split_of_no_colon {piece : List Char} (h : ':' ∉ piece) :
    split piece = (String.ofList (trim piece), none) := by
  rw [split, Text.cut_of_notMem h]

/-- The first colon of a piece stands between its field and its direction. -/
lemma split_append_colon {field : List Char} (h : ':' ∉ field) (direction : List Char) :
    split (field ++ ':' :: direction) =
      (String.ofList (trim field), some (String.ofList (trim direction))) := by
  rw [split, Text.cut_append_cons h]

/-- Blank characters before a piece do not matter. -/
lemma split_blank_append {l : List Char} (hl : AllBlank l) (piece : List Char) :
    split (l ++ piece) = split piece := by
  have hcolon : ':' ∉ l := hl.notMem Text.isBlank_colon
  by_cases h : ':' ∈ piece
  · obtain ⟨f, d, rfl, hf⟩ := List.eq_append_cons_of_mem h
    rw [← List.append_assoc, split_append_colon (by simp [hcolon, hf]),
      split_append_colon hf, Text.trim_blank_append hl]
  · rw [split_of_no_colon (by simp [hcolon, h]), split_of_no_colon h, Text.trim_blank_append hl]

/-- Blank characters after a piece do not matter. -/
lemma split_append_blank (piece : List Char) {r : List Char} (hr : AllBlank r) :
    split (piece ++ r) = split piece := by
  have hcolon : ':' ∉ r := hr.notMem Text.isBlank_colon
  by_cases h : ':' ∈ piece
  · obtain ⟨f, d, rfl, hf⟩ := List.eq_append_cons_of_mem h
    rw [List.append_assoc, List.cons_append, split_append_colon hf, split_append_colon hf,
      Text.trim_append_blank d hr]
  · rw [split_of_no_colon (by simp [hcolon, h]), split_of_no_colon h,
      Text.trim_append_blank piece hr]

/-- Nor do they around it. -/
lemma split_trimmed (spec : String) : split (Text.trimmed spec).toList = split spec.toList := by
  obtain ⟨l, r, hl, hr, hs⟩ := Text.exists_pad spec.toList
  conv_rhs => rw [hs, split_append_blank _ hr, split_blank_append hl]
  rw [Text.toList_trimmed]

/-- The field of a piece is the trimmed start of it that ends at its first colon. -/
lemma exists_field (piece : List Char) :
    ∃ f, ':' ∉ f ∧ (piece = f ∨ ∃ d, piece = f ++ ':' :: d) ∧
      (split piece).1 = String.ofList (trim f) := by
  by_cases h : ':' ∈ piece
  · obtain ⟨f, d, rfl, hf⟩ := List.eq_append_cons_of_mem h
    exact ⟨f, hf, Or.inr ⟨d, rfl⟩, by rw [split_append_colon hf]⟩
  · exact ⟨piece, h, Or.inl rfl, by rw [split_of_no_colon h]⟩

/-- A piece has a token exactly if it has a field. -/
lemma ofPiece?_eq_some {piece : List Char} {t : Token} (h : ofPiece? piece = some t) :
    t.field ≠ "" ∧ t.field = (split piece).1 ∧ t.direction = .ofText (split piece).2 := by
  rw [ofPiece?] at h
  dsimp only at h
  split at h
  · exact absurd h (by simp)
  · next hne =>
    simp only [Option.some.injEq] at h
    subst h
    exact ⟨hne, rfl, rfl⟩

/-! ### The fields of tokens -/

/-- What the field of a token is like. -/
structure IsClean (field : String) : Prop where
  ne_empty : field ≠ ""
  trimmed : Text.trimmed field = field
  no_comma : ',' ∉ field.toList
  no_colon : ':' ∉ field.toList

/-- The field of every token is clean: it is made from a start of a piece, and no
piece has a comma in it. -/
lemma clean_of_mem_parse {spec : String} {t : Token} (h : t ∈ parse spec) : IsClean t.field := by
  obtain ⟨piece, hpiece, ht⟩ := List.mem_filterMap.mp h
  obtain ⟨hne, hfield, -⟩ := ofPiece?_eq_some ht
  obtain ⟨f, hcolon, hshape, hf⟩ := exists_field piece
  rw [hf] at hfield
  have hcomma : ',' ∉ f := by
    intro hc
    refine Text.notMem_of_mem_pieces hpiece ?_
    rcases hshape with rfl | ⟨d, rfl⟩
    · exact hc
    · exact List.mem_append_left _ hc
  refine ⟨hne, ?_, ?_, ?_⟩
  · rw [hfield, Text.trimmed, String.toList_ofList, Text.trim_trim]
  · rwa [hfield, String.toList_ofList, Text.mem_trim_iff Text.isBlank_comma]
  · rwa [hfield, String.toList_ofList, Text.mem_trim_iff Text.isBlank_colon]

/-! ### Blank characters around a specification -/

/-- The tokens of a list of characters. -/
def ofChars (s : List Char) : List Token :=
  (Text.pieces ',' s).filterMap ofPiece?

lemma parse_eq_ofChars (spec : String) : parse spec = ofChars spec.toList := rfl

/-- A comma keeps the tokens on its two sides apart. -/
lemma ofChars_append_comma (a b : List Char) :
    ofChars (a ++ ',' :: b) = ofChars a ++ ofChars b := by
  simp [ofChars, Text.pieces_append]

/-- Without a comma there is one piece. -/
lemma ofChars_of_no_comma {s : List Char} (h : ',' ∉ s) : ofChars s = (ofPiece? s).toList := by
  rw [ofChars, Text.pieces_of_notMem h]
  rcases hp : ofPiece? s with _ | t <;> simp [hp]

/-- Blank characters at the start do not matter. -/
lemma ofChars_blank_append {l : List Char} (hl : AllBlank l) (s : List Char) :
    ofChars (l ++ s) = ofChars s := by
  have hcomma : ',' ∉ l := hl.notMem Text.isBlank_comma
  have key : ∀ a, ',' ∉ a → ofChars (l ++ a) = ofChars a := by
    intro a ha
    rw [ofChars_of_no_comma (by simp [hcomma, ha]), ofChars_of_no_comma ha, ofPiece?, ofPiece?,
      split_blank_append hl]
  by_cases h : ',' ∈ s
  · obtain ⟨a, b, rfl, ha⟩ := List.eq_append_cons_of_mem h
    rw [← List.append_assoc, ofChars_append_comma, ofChars_append_comma, key a ha]
  · exact key s h

/-- Blank characters at the end do not matter. -/
lemma ofChars_append_blank (s : List Char) {r : List Char} (hr : AllBlank r) :
    ofChars (s ++ r) = ofChars s := by
  have hcomma : ',' ∉ r := hr.notMem Text.isBlank_comma
  have key : ∀ b, ',' ∉ b → ofChars (b ++ r) = ofChars b := by
    intro b hb
    rw [ofChars_of_no_comma (by simp [hcomma, hb]), ofChars_of_no_comma hb, ofPiece?, ofPiece?,
      split_append_blank b hr]
  by_cases h : ',' ∈ s
  · -- the blank characters belong to the piece after the last comma
    obtain ⟨b, a, hs, hb⟩ := List.eq_append_cons_of_mem (List.mem_reverse.mpr h)
    have hs : s = a.reverse ++ ',' :: b.reverse := by
      rw [← List.reverse_reverse s, hs]
      simp
    rw [hs, List.append_assoc, List.cons_append, ofChars_append_comma, ofChars_append_comma,
      key b.reverse (by simpa using hb)]
  · exact key s h

/-- Blank characters around a specification do not matter. -/
lemma parse_trimmed (spec : String) : parse (Text.trimmed spec) = parse spec := by
  obtain ⟨l, r, hl, hr, hs⟩ := Text.exists_pad spec.toList
  rw [parse_eq_ofChars, parse_eq_ofChars, Text.toList_trimmed]
  conv_rhs => rw [hs, ofChars_append_blank _ hr, ofChars_blank_append hl]

/-! ### Custom orderings -/

/-- The start of a custom ordering is trimmed. -/
lemma trim_customMark : trim ['c', '_'] = ['c', '_'] := by decide

/-- A piece that starts as a custom ordering is one. -/
lemma exists_ofPiece?_of_custom {piece : List Char} (h : ['c', '_'] <+: piece) :
    ∃ t, ofPiece? piece = some t ∧ Field.isCustom t.field = true := by
  obtain ⟨f, -, hshape, hf⟩ := exists_field piece
  have hstart : ['c', '_'] <+: f := by
    rcases hshape with rfl | ⟨d, rfl⟩
    · exact h
    · exact Text.prefix_of_prefix_append_cons (by decide) h
  have hcustom : Field.isCustom (split piece).1 = true := by
    rw [Field.isCustom_iff, hf, String.toList_ofList]
    exact Text.prefix_trim trim_customMark (by decide) hstart
  have hne : (split piece).1 ≠ "" := by
    intro h0
    rw [h0] at hcustom
    exact absurd hcustom (by decide)
  exact ⟨⟨(split piece).1, .ofText (split piece).2⟩, by simp [ofPiece?, hne], hcustom⟩

/-- A specification that starts as a custom ordering has one as its first token. -/
lemma parse_eq_cons_of_isCustom {spec : String}
    (h : Field.isCustom (Text.trimmed spec) = true) :
    ∃ t rest, parse spec = t :: rest ∧ Field.isCustom t.field = true := by
  rw [Field.isCustom_iff, Text.toList_trimmed] at h
  rw [← parse_trimmed, parse_eq_ofChars, Text.toList_trimmed]
  by_cases hcomma : ',' ∈ trim spec.toList
  · obtain ⟨a, b, hs, ha⟩ := List.eq_append_cons_of_mem hcomma
    rw [hs] at h
    obtain ⟨t, ht, hcustom⟩ :=
      exists_ofPiece?_of_custom (Text.prefix_of_prefix_append_cons (by decide) h)
    exact ⟨t, ofChars b, by simp [hs, ofChars_append_comma, ofChars_of_no_comma ha, ht], hcustom⟩
  · obtain ⟨t, ht, hcustom⟩ := exists_ofPiece?_of_custom h
    exact ⟨t, [], by simp [ofChars_of_no_comma hcomma, ht], hcustom⟩

/-- Without a custom ordering among its tokens a specification does not start as one. -/
lemma not_isCustom_trimmed {spec : String} (h : ∀ t ∈ parse spec, Field.isCustom t.field = false) :
    ¬ Field.isCustom (Text.trimmed spec) = true := by
  intro hcustom
  obtain ⟨t, rest, hparse, ht⟩ := parse_eq_cons_of_isCustom hcustom
  have hmem : t ∈ parse spec := by
    rw [hparse]
    exact List.mem_cons_self
  rw [h t hmem] at ht
  cases ht

/-- A specification without a comma has at most one token. -/
lemma parse_of_no_comma {spec : String} (h : ',' ∉ spec.toList) :
    parse spec = (ofPiece? spec.toList).toList :=
  ofChars_of_no_comma h

/-- A specification that consists of a custom ordering starts as one. -/
lemma isCustom_trimmed_of_mem_parse {spec : String} (hcomma : ',' ∉ spec.toList) {t : Token}
    (ht : t ∈ parse spec) (hcustom : Field.isCustom t.field = true) :
    Field.isCustom (Text.trimmed spec) = true := by
  rw [parse_of_no_comma hcomma, Option.mem_toList] at ht
  obtain ⟨-, hfield, -⟩ := ofPiece?_eq_some ht
  obtain ⟨f, -, hshape, hf⟩ := exists_field spec.toList
  rw [hfield, hf, Field.isCustom_iff, String.toList_ofList] at hcustom
  -- before the field there are only blank characters
  obtain ⟨l, r, hl, -, hpad⟩ := Text.exists_pad f
  obtain ⟨rest, hrest⟩ := hcustom
  have hspec : ∃ x, spec.toList = l ++ (['c', '_'] ++ x) := by
    rw [← hrest] at hpad
    rcases hshape with h | ⟨d, h⟩
    · exact ⟨rest ++ r, by rw [h, hpad]; simp⟩
    · exact ⟨rest ++ r ++ ':' :: d, by rw [h, hpad]; simp⟩
  obtain ⟨x, hx⟩ := hspec
  rw [Field.isCustom_iff, Text.toList_trimmed, hx, Text.trim_blank_append hl]
  exact Text.prefix_trim trim_customMark (by decide) (List.prefix_append ..)

end Token

end QueryOrder
