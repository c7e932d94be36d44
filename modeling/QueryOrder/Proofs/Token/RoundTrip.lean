/-
Tokens written as a specification.

* `render_nil`, `render_singleton`, `render_cons_cons`: a comma between the written tokens;
* `parse_text`, `parse_field`: a token whose field is clean is read from its own piece, and from
  its field alone if it is ascending;
* `parse_render`: tokens whose fields are clean are read from their specification, in order;
* `round_trip`: only such tokens are read back, and they are the ones that a specification
  can have, so that what is read of one is read again from its written form.
-/
import QueryOrder.Proofs.Token.Reading

namespace QueryOrder.Token

open Text (trim)

/-! ### The written form -/

@[simp] lemma render_nil : render [] = "" := rfl

@[simp] lemma render_singleton (t : Token) : render [t] = t.text := rfl

lemma render_cons_cons (t u : Token) (rest : List Token) :
    render (t :: u :: rest) = t.text ++ "," ++ render (u :: rest) := by
  simp [render, String.intercalate_cons_cons]

/-- The first colon of a piece with a clean field stands after the field. -/
lemma toList_text (t : Token) :
    t.text.toList = t.field.toList ++ ':' :: t.direction.text.toList := by
  simp [text]

/-- The text of a direction has no blank characters around it. -/
lemma trim_text (d : Direction) : trim d.text.toList = d.text.toList := by
  cases d <;> decide

/-- The text of a direction has no comma in it. -/
lemma comma_notMem_text (d : Direction) : ',' ∉ d.text.toList := by
  cases d <;> decide

/-! ### Reading it back -/

/-- The piece of a token is cut into its field and the text of its direction. -/
lemma split_text {t : Token} (h : IsClean t.field) :
    split t.text.toList = (t.field, some t.direction.text) := by
  have hfield : String.ofList (trim t.field.toList) = t.field := h.trimmed
  rw [toList_text, split_append_colon h.no_colon, hfield, trim_text, String.ofList_toList]

/-- A token is read from its own piece. -/
lemma parse_text {t : Token} (h : IsClean t.field) : parse t.text = [t] := by
  have hcomma : ',' ∉ t.text.toList := by
    simp [toList_text, h.no_comma, comma_notMem_text]
  have hpiece : ofPiece? t.text.toList = some t := by
    simp [ofPiece?, split_text h, h.ne_empty, Direction.ofText_text]
  rw [parse_of_no_comma hcomma, hpiece, Option.toList_some]

/-- A clean field alone is a token without a direction, which is ascending. -/
lemma parse_field {field : String} (h : IsClean field) : parse field = [⟨field, .ascending⟩] := by
  have htrimmed : String.ofList (trim field.toList) = field := h.trimmed
  have hpiece : ofPiece? field.toList = some ⟨field, .ascending⟩ := by
    simp [ofPiece?, split_of_no_colon h.no_colon, htrimmed, h.ne_empty, Direction.ofText]
  rw [parse_of_no_comma h.no_comma, hpiece, Option.toList_some]

/-- Tokens are read from their specification, in order. -/
lemma parse_render {tokens : List Token} (h : ∀ t ∈ tokens, IsClean t.field) :
    parse (render tokens) = tokens := by
  induction tokens with
  | nil =>
      rw [render_nil]
      rfl
  | cons t rest ih =>
      have hfirst : parse t.text = [t] := parse_text (h t List.mem_cons_self)
      cases rest with
      | nil => rw [render_singleton, hfirst]
      | cons u rest =>
          have hrest : parse (render (u :: rest)) = u :: rest :=
            ih fun t' ht' => h t' (List.mem_cons_of_mem t ht')
          calc parse (render (t :: u :: rest))
              = parse t.text ++ parse (render (u :: rest)) := by
                rw [render_cons_cons, parse_append]
            _ = t :: u :: rest := by rw [hfirst, hrest, List.singleton_append]

/-- Tokens are read back from their specification exactly if their fields are clean: not
empty, trimmed, and without a comma or a colon. These are the tokens that a specification can
have at all, and so the tokens of one are read again from their written form. -/
theorem round_trip :
    (∀ tokens, parse (render tokens) = tokens ↔ ∀ t ∈ tokens, IsClean t.field) ∧
    (∀ tokens, (∃ spec, parse spec = tokens) ↔ ∀ t ∈ tokens, IsClean t.field) ∧
    ∀ spec, (∀ t ∈ parse spec, IsClean t.field) ∧
      parse (render (parse spec)) = parse spec := by
  have hclean : ∀ spec, ∀ t ∈ parse spec, IsClean t.field := fun _ _ => clean_of_mem_parse
  refine ⟨fun tokens => ?_, fun tokens => ?_, fun spec => ⟨hclean spec, parse_render (hclean spec)⟩⟩
  · constructor
    · intro hread
      rw [← hread]
      exact hclean (render tokens)
    · exact parse_render
  · constructor
    · rintro ⟨spec, rfl⟩
      exact hclean spec
    · intro h
      exact ⟨render tokens, parse_render h⟩

end QueryOrder.Token
