/-
Blank characters in a specification.

A specification may be spaced: at its two ends, around its commas, and around the first colon of
each of its pieces. Nothing that is read of it changes.

* `Spaced`, `Padded`: blank characters at one such place of a text, and at any number of them;
* `ofChars_colon_blank`: blank characters around the first colon of a text do not matter;
* `ReadsAs`: what a compilation looks at in a text; `Spaced.readsAs` is the step, and
  `Padded.readsAs` the run;
* `ReadsAs.isCombined_iff`, `ReadsAs.ofText_eq`: what such a text asks for, unless a custom
  ordering stands beside other columns in it, which are refused under their own text;
* `RefusedWhole`, `refusedWhole_of_isCombined`: what that comes to, under every gate;
* `padding_irrelevant`: a spaced text has the same tokens and compiles to the same plan, with the
  same warnings and failures.
-/
import Mathlib.Logic.Relation
import QueryOrder.Proofs.Routing

namespace QueryOrder

open Text (AllBlank trim)

/-! ### Where blank characters are put -/

/-- Blank characters are put at one place of a text: at its ends, around a comma, or around the
first colon of one of its pieces, which starts with the text or after a comma. -/
inductive Spaced : String → String → Prop
  | ends (s : String) {l r : String} (hl : AllBlank l.toList) (hr : AllBlank r.toList) :
      Spaced s (l ++ s ++ r)
  | comma (before after : String) {l r : String} (hl : AllBlank l.toList)
      (hr : AllBlank r.toList) :
      Spaced (before ++ "," ++ after) (before ++ l ++ "," ++ r ++ after)
  | colon {before field : String} (after : String) {l r : String}
      (hstart : before = "" ∨ ∃ first, before = first ++ ",") (hcomma : ',' ∉ field.toList)
      (hcolon : ':' ∉ field.toList) (hl : AllBlank l.toList) (hr : AllBlank r.toList) :
      Spaced (before ++ field ++ ":" ++ after) (before ++ field ++ l ++ ":" ++ r ++ after)

/-- Blank characters are put at any number of places, one after the other. -/
def Padded : String → String → Prop :=
  Relation.ReflTransGen Spaced

namespace Token

/-- Blank characters around the first colon of a text do not matter. -/
lemma ofChars_colon_blank {field l r : List Char} (hcomma : ',' ∉ field) (hcolon : ':' ∉ field)
    (hl : AllBlank l) (hr : AllBlank r) (after : List Char) :
    ofChars (field ++ l ++ ':' :: (r ++ after)) = ofChars (field ++ ':' :: after) := by
  have hlcomma : ',' ∉ l := hl.notMem Text.isBlank_comma
  have hrcomma : ',' ∉ r := hr.notMem Text.isBlank_comma
  have hlcolon : ':' ∉ l := hl.notMem Text.isBlank_colon
  have key : ∀ d, ',' ∉ d →
      ofChars (field ++ l ++ ':' :: (r ++ d)) = ofChars (field ++ ':' :: d) := by
    intro d hd
    rw [ofChars_of_no_comma (by simp [hcomma, hlcomma, hrcomma, hd]),
      ofChars_of_no_comma (by simp [hcomma, hd]), ofPiece?, ofPiece?,
      split_append_colon (by simp [hcolon, hlcolon]), split_append_colon hcolon,
      Text.trim_append_blank field hl, Text.trim_blank_append hr]
  by_cases h : ',' ∈ after
  · -- the piece of the colon ends at the first comma after it
    obtain ⟨d, rest, rfl, hd⟩ := List.eq_append_cons_of_mem h
    have hspaced : field ++ l ++ ':' :: (r ++ (d ++ ',' :: rest)) =
        (field ++ l ++ ':' :: (r ++ d)) ++ ',' :: rest := by simp
    have hplain : field ++ ':' :: (d ++ ',' :: rest) = (field ++ ':' :: d) ++ ',' :: rest := by
      simp
    rw [hspaced, hplain, ofChars_append_comma, ofChars_append_comma, key d hd]
  · exact key after h

end Token

/-! ### What is read of a text -/

/-- What a compilation looks at is the same in two texts. -/
structure ReadsAs (s s' : String) : Prop where
  tokens : Token.parse s' = Token.parse s
  blank : trim s'.toList = [] ↔ trim s.toList = []
  custom : Field.isCustom (Text.trimmed s') = true ↔ Field.isCustom (Text.trimmed s) = true
  comma : ',' ∈ s'.toList ↔ ',' ∈ s.toList

namespace ReadsAs

lemma refl (s : String) : ReadsAs s s := ⟨rfl, Iff.rfl, Iff.rfl, Iff.rfl⟩

lemma trans {s s' s'' : String} (h : ReadsAs s s') (h' : ReadsAs s' s'') : ReadsAs s s'' :=
  ⟨h'.tokens.trans h.tokens, h'.blank.trans h.blank, h'.custom.trans h.custom,
    h'.comma.trans h.comma⟩

end ReadsAs

/-- How a text starts does not depend on the blank characters before a mark, or on what is after
it. -/
lemma isCustom_trimmed_append_cons {m : Char} (hblank : Text.isBlank m = false)
    (hm : m ∉ ['c', '_']) {s s' : String} {a b l b' : List Char} (hl : AllBlank l)
    (hs : s.toList = a ++ m :: b) (hs' : s'.toList = a ++ l ++ m :: b') :
    Field.isCustom (Text.trimmed s') = true ↔ Field.isCustom (Text.trimmed s) = true := by
  have hiff := Text.prefix_trim_append_cons_iff Token.trim_customMark (by decide) hblank hm
  rw [Field.isCustom_iff, Field.isCustom_iff, Text.toList_trimmed, Text.toList_trimmed, hs, hs',
    hiff, hiff, Text.trim_append_blank a hl]

/-- Blank characters at one place change nothing of what is read. -/
lemma Spaced.readsAs {s s' : String} (h : Spaced s s') : ReadsAs s s' := by
  cases h with
  | @ends _ l r hl hr =>
      have hs : (l ++ s ++ r).toList = l.toList ++ s.toList ++ r.toList := by simp
      have htrim : trim (l ++ s ++ r).toList = trim s.toList := by
        rw [hs, Text.trim_append_blank _ hr, Text.trim_blank_append hl]
      refine ⟨?_, by rw [htrim], by rw [Text.trimmed, htrim, Text.trimmed], ?_⟩
      · rw [Token.parse_eq_ofChars, hs, Token.ofChars_append_blank _ hr,
          Token.ofChars_blank_append hl, Token.parse_eq_ofChars]
      · simp [hl.notMem Text.isBlank_comma, hr.notMem Text.isBlank_comma]
  | @comma before after l r hl hr =>
      have hs : (before ++ "," ++ after).toList = before.toList ++ ',' :: after.toList := by simp
      have hs' : (before ++ l ++ "," ++ r ++ after).toList =
          before.toList ++ l.toList ++ ',' :: (r.toList ++ after.toList) := by simp
      refine ⟨?_, ?_, ?_, by simp⟩
      · rw [Token.parse_eq_ofChars, Token.parse_eq_ofChars, hs, hs', Token.ofChars_append_comma,
          Token.ofChars_append_comma, Token.ofChars_append_blank _ hl,
          Token.ofChars_blank_append hr]
      · simp [Text.trim_eq_nil_iff, Text.isBlank_comma, or_imp, forall_and]
      · exact isCustom_trimmed_append_cons Text.isBlank_comma (by decide) hl hs hs'
  | @colon before field after l r hstart hcomma hcolon hl hr =>
      have hs : (before ++ field ++ ":" ++ after).toList =
          before.toList ++ field.toList ++ ':' :: after.toList := by simp
      have hs' : (before ++ field ++ l ++ ":" ++ r ++ after).toList =
          before.toList ++ field.toList ++ l.toList ++ ':' :: (r.toList ++ after.toList) := by
        simp
      refine ⟨?_, ?_, ?_, ?_⟩
      · have hpiece := Token.ofChars_colon_blank hcomma hcolon hl hr after.toList
        rw [Token.parse_eq_ofChars, Token.parse_eq_ofChars, hs, hs']
        rcases hstart with rfl | ⟨first, rfl⟩
        · exact hpiece
        · -- the comma before the piece keeps it apart
          simp only [String.toList_append, List.append_assoc] at hpiece ⊢
          exact (Token.ofChars_append_comma ..).trans
            ((congrArg _ hpiece).trans (Token.ofChars_append_comma ..).symm)
      · simp [Text.trim_eq_nil_iff, Text.isBlank_colon, or_imp, forall_and]
      · exact isCustom_trimmed_append_cons Text.isBlank_colon (by decide) hl hs hs'
      · simp [hl.notMem Text.isBlank_comma, hr.notMem Text.isBlank_comma]

/-- Nor do they at any number of places. -/
lemma Padded.readsAs {s s' : String} (h : Padded s s') : ReadsAs s s' := by
  induction h with
  | refl => exact ReadsAs.refl s
  | tail _ hstep ih => exact ih.trans hstep.readsAs

/-! ### What is asked for -/

namespace ReadsAs

variable {s s' : String}

lemma isCombined_iff (h : ReadsAs s s') : IsCombined s' ↔ IsCombined s := by
  rw [IsCombined, IsCombined, h.tokens, h.comma]

/-- Two texts that read the same ask for the same, unless that is refused as a whole. -/
lemma ofText_eq (h : ReadsAs s s') (hcombined : ¬ IsCombined s) :
    Request.ofText s' = Request.ofText s := by
  rcases Request.ofText_cases s with ⟨hplain, hq⟩ | ⟨hcomma, hcustom, -⟩ |
    ⟨t, hcomma, hparse, hcustom, hq⟩
  · rw [hq, Request.ofText_of_plain (by rwa [h.tokens]), h.tokens]
  · exact absurd ⟨hcomma, hcustom⟩ hcombined
  · have hmem : t ∈ Token.parse s' := by
      rw [h.tokens, hparse]
      exact List.mem_cons_self
    rw [hq, (Request.ofText_of_no_comma (h.comma.not.mpr hcomma) hmem hcustom).2]

end ReadsAs

namespace Compile

variable {e : Entity} {a : AllowList} {raw raw' : Value} {spec spec' : String}

/-! ### Specifications that are refused as a whole -/

/-- A specification is refused as a whole under its own text, whatever the gate. -/
structure RefusedWhole (e : Entity) (a : AllowList) (raw : Value) (spec : String) : Prop where
  strict : ∀ sink, (compile e a ⟨.strict, sink⟩ raw).result =
    .error (.violation .combined (Refusal.ofCombined (Text.trimmed spec)).message
      (Text.trimmed spec) true)
  lenient : ∀ sink, sink ≠ .interrupting → (compile e a ⟨.lenient, sink⟩ raw).result = .ok .empty
  interrupted : (compile e a ⟨.lenient, .interrupting⟩ raw).result =
    .error (.interrupted "log sink is down")
  warnings : ∀ g, (compile e a g raw).warnings =
    if g = ⟨.lenient, .recording⟩ then ["ignoring all columns due to " ++ Text.trimmed spec] else []

lemma refusedWhole_of_isCombined (hraw : raw.text? = some spec) (h : IsCombined spec) :
    RefusedWhole e a raw spec := by
  have hserve : ∀ g, Traced.Alike (compile e a g raw) (rejectCombined g (Text.trimmed spec)) := by
    intro g
    have halike := compile_alike (e := e) (a := a) g raw
    rwa [Request.ofValue_of_text hraw, Request.ofText_eq_combined_iff.mpr ⟨h, rfl⟩,
      ← rejectCombined_eq_serve] at halike
  refine ⟨fun sink => (compile_combined hraw h sink).1, fun sink hsink => ?_, ?_, fun g => ?_⟩
  · rw [(hserve _).result]
    cases sink <;> first | rfl | exact absurd rfl hsink
  · rw [(hserve _).result]
    rfl
  · obtain ⟨policy, sink⟩ := g
    cases policy with
    | strict => rw [compile_strict_warnings, if_neg (by simp)]
    | lenient =>
        rw [(hserve _).warnings]
        cases sink <;> rfl

/-! ### Specifications with blank characters in them -/

/-- Blank characters at the ends of a specification, around its commas and around the first
colons of its pieces change neither its tokens nor whether it is blank or a custom ordering. It
compiles to the same plan, or to the same failure, and with the same warnings, for every model,
allow-list and gate. Only a specification that is refused as a whole is so under its own text. -/
theorem padding_irrelevant (hraw : raw.text? = some spec) (hraw' : raw'.text? = some spec')
    (hpadded : Padded spec spec') :
    Token.parse spec' = Token.parse spec ∧
    isBlank raw' = isBlank raw ∧
    asksCustom raw' = asksCustom raw ∧
    (IsCombined spec' ↔ IsCombined spec) ∧
    (¬ IsCombined spec → ∀ e a g,
      (compile e a g raw').result = (compile e a g raw).result ∧
      (compile e a g raw').warnings = (compile e a g raw).warnings) ∧
    (IsCombined spec → ∀ e a, RefusedWhole e a raw spec ∧ RefusedWhole e a raw' spec') := by
  have hreads := hpadded.readsAs
  refine ⟨hreads.tokens, ?_, ?_, hreads.isCombined_iff, fun hcombined e a g => ?_,
    fun hcombined e a => ?_⟩
  · rw [isBlank, isBlank, hraw, hraw', Bool.eq_iff_iff, List.isEmpty_iff, List.isEmpty_iff]
    exact hreads.blank
  · rw [asksCustom, asksCustom, hraw, hraw', Bool.eq_iff_iff]
    exact hreads.custom
  · have hrequest : Request.ofValue raw' = Request.ofValue raw := by
      rw [Request.ofValue_of_text hraw, Request.ofValue_of_text hraw', hreads.ofText_eq hcombined]
    have halike := compile_alike (e := e) (a := a) g raw'
    rw [hrequest] at halike
    have halike' := compile_alike (e := e) (a := a) g raw
    exact ⟨halike.result.trans halike'.result.symm, halike.warnings.trans halike'.warnings.symm⟩
  · exact ⟨refusedWhole_of_isCombined hraw hcombined,
      refusedWhole_of_isCombined hraw' (hreads.isCombined_iff.mpr hcombined)⟩

/-- A custom ordering on its own is called, and one beside an empty column refused, however they
are spaced. -/
theorem padding_irrelevant_books :
    let e : Entity := ⟨⟨"Book", []⟩, .plain "books" ["id", "title"], []⟩
    let scope : Scope := .given 1 "by_title" .function
    let a : AllowList := ⟨["c_title", "title"], [("c_title", scope)]⟩
    Padded "c_title:desc" "\tc_title : desc\n" ∧ Padded "title,c_title" "title ,\u3000c_title" ∧
    (compile e a ⟨.strict, .absent⟩ (.text "\tc_title : desc\n")).result =
      .ok (.ofCall ⟨"c_title", scope, .descending⟩) ∧
    (compile e a ⟨.lenient, .recording⟩ (.text "title ,\u3000c_title")).warnings =
      ["ignoring all columns due to title ,\u3000c_title"] := by
  intro e scope a
  have hcolon : Spaced "c_title:desc" "c_title : desc" :=
    @Spaced.colon "" "c_title" "desc" " " " " (Or.inl rfl) (by decide) (by decide) (by decide)
      (by decide)
  have hends : Spaced "c_title : desc" "\tc_title : desc\n" :=
    @Spaced.ends _ "\t" "\n" (by decide) (by decide)
  have hcomma : Spaced "title,c_title" "title ,\u3000c_title" :=
    @Spaced.comma "title" "c_title" " " "\u3000" (by decide) (by decide)
  have halone : Padded "c_title:desc" "\tc_title : desc\n" :=
    (Relation.ReflTransGen.single hcolon).tail hends
  have hbeside : Padded "title,c_title" "title ,\u3000c_title" :=
    Relation.ReflTransGen.single hcomma
  obtain ⟨-, -, -, -, hcalled, -⟩ := @padding_irrelevant (.text _) (.text _) _ _ rfl rfl halone
  obtain ⟨-, -, -, -, -, hrefused⟩ := @padding_irrelevant (.text _) (.text _) _ _ rfl rfl hbeside
  have hplan : (compile e a ⟨.strict, .absent⟩ (.text "c_title:desc")).result =
      .ok (.ofCall ⟨"c_title", scope, .descending⟩) := by
    decide +kernel
  have hnot : ¬ IsCombined "c_title:desc" := fun h => absurd h.1 (by decide)
  have hcombined : IsCombined "title,c_title" :=
    ⟨by decide, ⟨"c_title", .ascending⟩, by decide +kernel, by decide⟩
  refine ⟨halone, hbeside, (hcalled hnot e a _).1.trans hplan, ?_⟩
  exact ((hrefused hcombined e a).2.warnings _).trans (by decide +kernel)

end Compile

end QueryOrder
