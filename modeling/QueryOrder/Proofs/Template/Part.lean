/-
Templates made of texts and of holes for texts.

The message templates of the library use one directive only, `%(name)s`, and show
only texts in it.

* `Part`: a text that stands for itself, or a hole with the name of what it shows;
* `written`, `filled`: a template of parts, and the message that it stands for;
* `fill_written`: filling in such a template never fails, and puts each text into
  its hole as it is.
-/
import Mathlib.Tactic.Common
import QueryOrder.Template.Fill

namespace QueryOrder.Template

/-- A part of a template. -/
inductive Part where
  /-- A text that stands for itself. -/
  | text (s : String)
  /-- A hole, with the name of what it shows. -/
  | hole (name : String)
deriving DecidableEq, Repr

namespace Part

/-- A part as it is written in a template. -/
def written : Part → String
  | text s => s
  | hole name => "%(" ++ name ++ ")s"

/-- A part as it is shown. -/
def shown (value : String → String) : Part → String
  | text s => s
  | hole name => value name

/-- Whether a part is read as it is meant: no percent sign in a text, and no
parenthesis in a name. -/
def isPlain : Part → Bool
  | text s => !s.toList.contains '%'
  | hole name => !name.toList.contains '(' && !name.toList.contains ')'

end Part

/-- A template of parts. -/
def written : List Part → String
  | [] => ""
  | p :: rest => p.written ++ written rest

/-- The message that a template of parts stands for. -/
def filled (value : String → String) : List Part → String
  | [] => ""
  | p :: rest => p.shown value ++ filled value rest

/-! ### Reading a template of parts -/

/-- A character other than a percent sign stands for itself. -/
lemma pieces_cons_char {c : Char} (h : c ≠ '%') (s : List Char) :
    pieces (c :: s) = .char c :: pieces s := by
  rw [pieces]
  · rw [if_neg h]
  · intro s' hc
    exact absurd hc h

/-- A text without percent signs stands for itself. -/
lemma pieces_append_plain {l : List Char} (h : '%' ∉ l) (s : List Char) :
    pieces (l ++ s) = l.map .char ++ pieces s := by
  induction l with
  | nil => rfl
  | cons c l ih =>
      rw [List.mem_cons, not_or] at h
      rw [List.cons_append, pieces_cons_char (Ne.symm h.1), ih h.2]
      rfl

/-- A name without parentheses ends at the first one that closes. -/
lemma closeName_plain {name : List Char} (ho : '(' ∉ name) (hc : ')' ∉ name) (s : List Char) :
    closeName 0 (name ++ ')' :: s) = some (name, s) := by
  induction name with
  | nil => simp [closeName]
  | cons c name ih =>
      rw [List.mem_cons, not_or] at ho hc
      rw [List.cons_append, closeName]
      simp [Ne.symm ho.1, Ne.symm hc.1, ih ho.2 hc.2]

/-- The directive of a hole. -/
def Directive.ofHole (name : String) : Directive :=
  ⟨.given name, [], .absent, .absent, some 's'⟩

/-- A hole is read as its directive. -/
lemma read_hole {name : List Char} (ho : '(' ∉ name) (hc : ')' ∉ name) (s : List Char) :
    Directive.read ('(' :: (name ++ ')' :: 's' :: s)) = (.ofHole (String.ofList name), s) := by
  have hname : readName ('(' :: (name ++ ')' :: 's' :: s))
      = (.given (String.ofList name), 's' :: s) := by
    rw [readName, closeName_plain ho hc]
  simp [Directive.read, hname, isFlag, readAmount, readPrecision, skipSize, Directive.ofHole]

/-- A hole is one piece of a template. -/
lemma pieces_hole {name : List Char} (ho : '(' ∉ name) (hc : ')' ∉ name) (s : List Char) :
    pieces ('%' :: '(' :: (name ++ ')' :: 's' :: s))
      = .directive (.ofHole (String.ofList name)) s.length :: pieces s := by
  rw [pieces]
  · rw [if_pos rfl, read_hole ho hc]
  · intro s' _ h
    simp at h

/-! ### Filling it in -/

/-- A hole shows its text as it is, whatever is left to be shown. -/
lemma fillDirective_hole {names : List (String × Value)} {name s : String}
    (h : names.lookup name = some (.text s)) (index : Nat) (left : Option Value) :
    fillDirective names (.ofHole name) index left = .ok (s.toList, none) := by
  simp [fillDirective, Directive.ofHole, h, amount, convert, layOut, Shown.plain, Value.shown,
    roomyWidth, bind, Except.bind, pure, Except.pure]

/-- A text before the other pieces stands for itself. -/
lemma fillPieces_text {names : List (String × Value)} {length : Nat} {rest : List Piece}
    {left : Option Value} {out : List Char} (h : fillPieces names length rest left = .ok out)
    (l : List Char) : fillPieces names length (l.map .char ++ rest) left = .ok (l ++ out) := by
  induction l with
  | nil => exact h
  | cons c l ih =>
      rw [List.map_cons, List.cons_append, fillPieces, ih]
      rfl

/-- The pieces of a template of parts come to the message that it stands for. -/
lemma fillPieces_written {names : List (String × Value)} {value : String → String} (length : Nat)
    {parts : List Part} (hplain : ∀ p ∈ parts, p.isPlain = true)
    (hnames : ∀ name, .hole name ∈ parts → names.lookup name = some (.text (value name)))
    (left : Option Value) :
    fillPieces names length (pieces (written parts).toList) left
      = .ok (filled value parts).toList := by
  induction parts generalizing left with
  | nil => simp [written, filled, pieces, fillPieces]
  | cons p rest ih =>
      have ihrest := ih (fun q hq => hplain q (List.mem_cons_of_mem _ hq))
        (fun name h => hnames name (List.mem_cons_of_mem _ h))
      have hp := hplain p List.mem_cons_self
      rw [written, filled, String.toList_append, String.toList_append]
      cases p with
      | text s =>
          have hs : '%' ∉ s.toList := by simpa [Part.isPlain] using hp
          rw [Part.written, Part.shown, pieces_append_plain hs]
          exact fillPieces_text (ihrest left) s.toList
      | hole name =>
          obtain ⟨ho, hc⟩ : '(' ∉ name.toList ∧ ')' ∉ name.toList := by
            simpa [Part.isPlain] using hp
          have hwritten : (Part.hole name).written.toList ++ (written rest).toList
              = '%' :: '(' :: (name.toList ++ ')' :: 's' :: (written rest).toList) := by
            simp [Part.written]
          rw [hwritten, pieces_hole ho hc, String.ofList_toList, fillPieces,
            fillDirective_hole (hnames name List.mem_cons_self), Part.shown]
          simp [ihrest none, bind, Except.bind, pure, Except.pure]

/-- Filling in a template of parts never fails, and puts each text into its hole as
it is. -/
theorem fill_written {names : List (String × Value)} {value : String → String}
    {parts : List Part} (hplain : ∀ p ∈ parts, p.isPlain = true)
    (hnames : ∀ name, .hole name ∈ parts → names.lookup name = some (.text (value name))) :
    fill (written parts) names = .ok (filled value parts) := by
  rw [fill, fillPieces_written _ hplain hnames]
  simp [bind, Except.bind, pure, Except.pure]

end QueryOrder.Template
