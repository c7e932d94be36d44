/-
Declared values that are no allow-lists yet.

The parts of an allow-list take a text for one field. Where a model or a compiler is given a
value to be sorted by, its items are spread first, and those of a text are its characters.

* `declare_without`: to declare fields without custom orderings is to give them as a part;
* `letters`, `letters_alike_iff`: the characters of a text as fields, which are the text itself
  only if it is one character;
* `ofValue_of_ofParts`: a value that is accepted as a part is accepted when it is spread, and only
  a text comes to other fields;
* `Decides`: the value that a model is sorted by, as it declares it or as it is given;
* `spread_iff`: the two ways agree exactly on values that are no text, or one character;
* `text_spread`: a model that is declared by the name of one column.
-/
import QueryOrder.Proofs.AllowList.Declare

namespace QueryOrder

namespace AllowList

variable {v : Value} {a : AllowList}

/-! ### Parts and items -/

/-- To declare fields without custom orderings is to give them as a part. -/
lemma declare_without (items : List Value) : declare items .null = ofParts (.tuple items) .null :=
  rfl

/-- An allow-list without custom orderings has the declared fields, if none is reserved. -/
lemma ofParts_without_iff :
    ofParts v .null = .ok a ↔
      declaredFields v = .ok a.fields ∧ "c_columns" ∉ a.fields ∧ a.scopes = [] := by
  have hscopes : declaredScopes .null = .ok a.scopes ↔ a.scopes = [] := by
    have hnull : declaredScopes .null = .ok [] := rfl
    rw [hnull, Except.ok.injEq, eq_comm]
  rw [ofParts_accepted_iff, checkReserved_eq_ok_iff, hscopes]
  constructor
  · rintro ⟨hfields, hreserved, hnone, -⟩
    exact ⟨hfields, hreserved, hnone⟩
  · rintro ⟨hfields, hreserved, hnone⟩
    refine ⟨hfields, hreserved, hnone, ?_⟩
    rw [hnone]
    rfl

/-- Two allow-lists allow the same exactly if they have the same fields, in any order. -/
lemma allows_eq_iff {a' : AllowList} : (∀ field, a'.allows field = a.allows field) ↔
    ∀ field, field ∈ a'.fields ↔ field ∈ a.fields :=
  forall_congr' fun field => by rw [Bool.eq_iff_iff, allows_iff, allows_iff]

/-! ### The characters of a text -/

/-- The characters of a text as fields, each once. -/
def letters (s : String) : List String :=
  (s.toList.map Char.toString).eraseDups

lemma mem_letters_iff {s field : String} :
    field ∈ letters s ↔ ∃ c ∈ s.toList, c.toString = field := by
  rw [letters, List.mem_eraseDups, List.mem_map]

/-- Every one of them is one character long. -/
lemma length_of_mem_letters {s field : String} (h : field ∈ letters s) : field.length = 1 := by
  obtain ⟨c, -, rfl⟩ := mem_letters_iff.mp h
  simp

/-- A text of one character is its only one. -/
lemma letters_of_length_one {s : String} (h : s.length = 1) : letters s = [s] := by
  obtain ⟨c, hc⟩ := List.length_eq_one_iff.mp (by rwa [String.length_toList] : s.toList.length = 1)
  obtain rfl : s = c.toString := String.toList_inj.mp (by simp [hc])
  simp [letters, List.eraseDups_cons]

/-- The characters of a text allow what the text itself does only if it is one character. -/
lemma letters_alike_iff {s : String} :
    (∀ field, field ∈ letters s ↔ field ∈ [s]) ↔ s.length = 1 := by
  constructor
  · intro h
    exact length_of_mem_letters ((h s).mpr List.mem_cons_self)
  · intro h field
    rw [letters_of_length_one h]

/-! ### Values that are spread -/

/-- The items of a value that is no allow-list yet are spread. -/
lemma ofValue_of_items (hv : ∀ b, v ≠ .allowList b) (hnull : v ≠ .null) {items : List Value}
    (hitems : v.items? = some items) : ofValue v = ofParts (.tuple items) .null := by
  rw [ofValue, hitems]
  · exact declare_without items
  · exact hnull
  · exact hv

/-- The items of a text are its characters. -/
lemma items?_of_text {s : String} (hs : v.text? = some s) :
    v.items? = some (s.toList.map fun c => .text c.toString) := by
  cases v with
  | text s' =>
      obtain rfl : s' = s := Option.some.inj hs
      rfl
  | textMember enumeration name s' =>
      obtain rfl : s' = s := Option.some.inj hs
      rfl
  | _ => cases hs

/-- A text is spread over its characters, none of which is reserved. -/
lemma ofValue_of_text {s : String} (hs : v.text? = some s) : ofValue v = .ok ⟨letters s, []⟩ := by
  have hnames : fieldNames (s.toList.map fun c => .text c.toString) = letters s := by
    rw [fieldNames, List.map_map]
    rfl
  have hv : ∀ b, v ≠ .allowList b := by
    rintro b rfl
    cases hs
  have hnull : v ≠ .null := by
    rintro rfl
    cases hs
  rw [ofValue_of_items hv hnull (items?_of_text hs), ofParts_without_iff]
  refine ⟨congrArg Except.ok hnames, fun hmem => ?_, rfl⟩
  exact absurd (length_of_mem_letters hmem) (by decide)

/-- A value that is no text and is accepted as a part is accepted as the same when it is spread. -/
lemma ofValue_of_no_text (hv : ∀ b, v ≠ .allowList b) (hs : v.text? = none)
    (h : ofParts v .null = .ok a) : ofValue v = .ok a := by
  by_cases hnull : v = .null
  · subst hnull
    exact h
  · have hfields : declaredFields v = v.items.map fieldNames := by
      rw [declaredFields, hs]
      · rfl
      · exact hnull
    obtain ⟨hnames, hreserved, hscopes⟩ := ofParts_without_iff.mp h
    rw [hfields, Value.items] at hnames
    rcases hitems : v.items? with _ | items
    · rw [hitems] at hnames
      cases hnames
    · rw [hitems] at hnames
      rw [ofValue_of_items hv hnull hitems, ofParts_without_iff]
      exact ⟨hnames, hreserved, hscopes⟩

/-- A value that is accepted as a part is accepted when it is spread, and only a text comes to
other fields. -/
lemma ofValue_of_ofParts (hv : ∀ b, v ≠ .allowList b) (h : ofParts v .null = .ok a) :
    (v.text? = none ∧ ofValue v = .ok a) ∨
      ∃ s, v.text? = some s ∧ a = ⟨[s], []⟩ ∧ ofValue v = .ok ⟨letters s, []⟩ := by
  rcases hs : v.text? with _ | s
  · exact .inl ⟨rfl, ofValue_of_no_text hv hs h⟩
  · refine .inr ⟨s, rfl, ?_, ofValue_of_text hs⟩
    obtain ⟨hnames, -, hscopes⟩ := ofParts_without_iff.mp h
    have hone : declaredFields v = .ok [s] := by
      rw [declaredFields, hs]
      rintro rfl
      cases hs
    obtain ⟨fields, scopes⟩ := a
    obtain rfl : [s] = fields := Except.ok.inj (hone.symm.trans hnames)
    obtain rfl : scopes = [] := hscopes
    rfl

end AllowList

/-! ### The value that a model is sorted by -/

/-- A value decides what a model is sorted by: the model declares it and none is given, or it is
given. A null is not given. -/
inductive Registry.Decides (r : Registry) (model : String) (v : Value) : Value → Prop
  | declared (h : r.declaredValue model = v) : Decides r model v .null
  | given (h : v ≠ .null) : Decides r model v v

/-- A compiler for a model over a table has the allow-list of the value that decides. -/
lemma Registry.Decides.compiler {r : Registry} {model : String} {v sortable : Value}
    (h : r.Decides model v sortable) {e : Entity} (he : r.entity model = .ok e) {a : AllowList}
    (ha : AllowList.ofValue v = .ok a) (gate : Gate) :
    r.compiler model sortable gate = .ok ⟨model, a, gate⟩ := by
  obtain ⟨m, hfind, -⟩ := entity_eq_ok_iff.mp he
  have hallowed : r.allowList model sortable = .ok a := by
    cases h with
    | declared hv => rw [allowList_null hfind, hv, ha]
    | given hnull => rw [allowList_given hnull, ha]
  rw [compiler_of_allowList hfind hallowed, he]
  rfl

namespace AllowList

variable {v : Value} {a : AllowList}

/-- A value that is accepted for the fields of an allow-list is accepted, too, where its items are
spread. It comes to the same fields exactly if it is no text, or a text of one character, and any
other text comes to its characters instead. So a model that declares the value, and a compiler
that is given it, allow what the allow-list does under this condition only. -/
theorem spread_iff (hv : ∀ b, v ≠ .allowList b) (h : ofParts v .null = .ok a) :
    ∃ a', ofValue v = .ok a' ∧ a'.scopes = a.scopes ∧
      (a'.fields = a.fields ↔ ∀ s, v.text? = some s → s.length = 1) ∧
      (∀ s, v.text? = some s → a.fields = [s] ∧ a'.fields = letters s) ∧
      ∀ (r : Registry) (model : String) (sortable : Value) (e : Entity) (gate : Gate),
        r.Decides model v sortable → r.entity model = .ok e →
        ∃ c, r.compiler model sortable gate = .ok c ∧ c.allowed = a' ∧
          ((∀ field, c.allowed.allows field = a.allows field) ↔
            ∀ s, v.text? = some s → s.length = 1) := by
  rcases ofValue_of_ofParts hv h with ⟨hnone, hspread⟩ | ⟨s, hs, rfl, hspread⟩
  · have htrue : ∀ s, v.text? = some s → s.length = 1 := by simp [hnone]
    refine ⟨a, hspread, rfl, iff_of_true rfl htrue, by simp [hnone], ?_⟩
    intro r model sortable e gate hdecides he
    exact ⟨_, hdecides.compiler he hspread gate, rfl, iff_of_true (fun _ => rfl) htrue⟩
  · have hone : (∀ s', v.text? = some s' → s'.length = 1) ↔ s.length = 1 := by
      simp [hs, eq_comm]
    refine ⟨⟨letters s, []⟩, hspread, rfl, ?_, ?_, ?_⟩
    · rw [hone]
      constructor
      · intro heq
        have hfields : letters s = [s] := heq
        exact letters_alike_iff.mp fun field => by rw [hfields]
      · exact letters_of_length_one
    · intro s' hs'
      obtain rfl : s = s' := Option.some.inj (hs.symm.trans hs')
      exact ⟨rfl, rfl⟩
    · intro r model sortable e gate hdecides he
      refine ⟨_, hdecides.compiler he hspread gate, rfl, ?_⟩
      rw [hone, allows_eq_iff]
      exact letters_alike_iff

/-- A list of a name and a number is one allow-list, wherever it is given. The name of a column is
one field of an allow-list, but not for a model that declares it. -/
theorem spread_iff_books :
    let book : Model := {
      name := "Book", title := "Book", parent := none, mapped := true, sortable := false
      table := "books", bases := [], columns := [⟨"id", none⟩], homes := [("id", "books")]
      members := [("id", .column ⟨"id", none⟩)]
      attributes := [(declaration, .value (.text "isbn")), ("id", .column ⟨"id", none⟩)] }
    let r : Registry := [book]
    let g : Gate := ⟨.lenient, .absent⟩
    let listed : Value := .list [.text "isbn", .int 1]
    let listedFields : AllowList := ⟨["isbn", "1"], []⟩
    let oneField : AllowList := ⟨["isbn"], []⟩
    ofParts listed .null = .ok listedFields ∧ ofParts (.text "isbn") .null = .ok oneField ∧
      (∃ c, r.compiler "Book" listed g = .ok c ∧
        ∀ field, c.allowed.allows field = listedFields.allows field) ∧
      ∃ c, r.compiler "Book" .null g = .ok c ∧
        ¬ ∀ field, c.allowed.allows field = oneField.allows field := by
  intro book r g listed listedFields oneField
  have hlisted : ofParts listed .null = .ok listedFields := by decide +kernel
  have hone : ofParts (.text "isbn") .null = .ok oneField := by decide +kernel
  have he : r.entity "Book" =
      .ok ⟨⟨"Book", r.attributes "Book"⟩, book.view, r.relations book⟩ := rfl
  obtain ⟨_, -, -, -, -, hgiven⟩ := @spread_iff listed listedFields (by simp [listed]) hlisted
  obtain ⟨_, -, -, -, -, hdeclared⟩ := @spread_iff (.text "isbn") oneField (by simp) hone
  obtain ⟨c, hc, -, hallows⟩ := hgiven r "Book" listed _ g (.given (by simp [listed])) he
  obtain ⟨c', hc', -, hallows'⟩ := hdeclared r "Book" .null _ g (.declared rfl) he
  refine ⟨hlisted, hone, ⟨c, hc, hallows.mpr (by simp [listed, Value.text?])⟩, c', hc', ?_⟩
  rw [hallows']
  exact fun h => absurd (h "isbn" rfl) (by decide)

/-- The name of a column is accepted as one field, and allows other columns when it is spread. -/
theorem text_spread :
    ofParts (.text "name") .null = .ok ⟨["name"], []⟩ ∧
      ofValue (.text "name") = .ok ⟨["n", "a", "m", "e"], []⟩ ∧
      ¬ ∃ a, ofValue (.text "name") = .ok a ∧ a.fields = ["name"] := by
  have hspread : ofValue (.text "name") = .ok ⟨["n", "a", "m", "e"], []⟩ := by decide +kernel
  refine ⟨by decide +kernel, hspread, ?_⟩
  rintro ⟨a, ha, hfields⟩
  obtain rfl := Except.ok.inj (hspread.symm.trans ha)
  exact absurd hfields (by decide)

end AllowList

end QueryOrder
