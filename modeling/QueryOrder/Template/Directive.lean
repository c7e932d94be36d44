/-
The directives of message templates.

A template is a text in which a percent sign starts a directive:
`%(name)flags width.precision conversion`, of which all but the conversion may be
left out.

* `Directive`: the parts of a directive;
* `Directive.read`: the directive at the start of a text, and what follows it;
* `Piece`, `pieces`: a template as its characters and its directives.
-/
import QueryOrder.Text.Cut

namespace QueryOrder.Template

/-! ### The parts of a directive -/

/-- A width or a precision: left out, written down, or taken from the values. -/
inductive Amount where
  | absent
  | given (n : Nat)
  | taken
deriving DecidableEq, Repr

/-- How a directive names the value it shows. -/
inductive Name where
  /-- The next value in turn. -/
  | absent
  | given (name : String)
  /-- The name has no end. -/
  | unterminated
deriving DecidableEq, Repr

/-- A directive. Its conversion is missing where the template ends before it. -/
structure Directive where
  name : Name
  flags : List Char
  width : Amount
  precision : Amount
  conversion : Option Char
deriving DecidableEq, Repr

/-! ### Reading -/

/-- The text up to the parenthesis that closes the ones already open, and what
follows it. -/
def closeName (depth : Nat) : List Char → Option (List Char × List Char)
  | [] => none
  | c :: s =>
    if c = ')' && depth = 0 then some ([], s)
    else
      let depth := if c = '(' then depth + 1 else if c = ')' then depth - 1 else depth
      (closeName depth s).map fun (name, rest) => (c :: name, rest)

/-- The name at the start of a directive. -/
def readName : List Char → Name × List Char
  | '(' :: s => match closeName 0 s with
    | some (name, rest) => (.given (String.ofList name), rest)
    | none => (.unterminated, [])
  | s => (.absent, s)

/-- Whether a character changes how a value is laid out. -/
def isFlag (c : Char) : Bool :=
  c = '-' || c = '+' || c = ' ' || c = '#' || c = '0'

/-- The number that digits stand for. -/
def number (digits : List Char) : Nat :=
  digits.foldl (fun n c => 10 * n + (c.toNat - '0'.toNat)) 0

/-- The amount at the start of a text: a star, or digits. -/
def readAmount : List Char → Amount × List Char
  | '*' :: s => (.taken, s)
  | s => match s.takeWhile Char.isDigit with
    | [] => (.absent, s)
    | digits => (.given (number digits), s.dropWhile Char.isDigit)

/-- The precision at the start of a text: it follows a point, and a point alone
gives none. -/
def readPrecision : List Char → Amount × List Char
  | '.' :: s => match readAmount s with
    | (.absent, rest) => (.given 0, rest)
    | read => read
  | s => (.absent, s)

/-- One letter for the size of a number may stand before the conversion. -/
def skipSize : List Char → List Char
  | c :: s => if c = 'h' || c = 'l' || c = 'L' then s else c :: s
  | [] => []

/-- The directive after a percent sign, and what follows it. -/
def Directive.read (s : List Char) : Directive × List Char :=
  let (name, s) := readName s
  let flags := s.takeWhile isFlag
  let (width, s) := readAmount (s.dropWhile isFlag)
  let (precision, s) := readPrecision s
  match skipSize s with
  | [] => (⟨name, flags, width, precision, none⟩, [])
  | c :: rest => (⟨name, flags, width, precision, some c⟩, rest)

/-! ### What is read is gone -/

theorem closeName_length {depth : Nat} {s name rest : List Char}
    (h : closeName depth s = some (name, rest)) : rest.length ≤ s.length := by
  induction s generalizing depth name with
  | nil => simp [closeName] at h
  | cons c s ih =>
    rw [closeName] at h
    split at h
    · simp only [Option.some.injEq, Prod.mk.injEq] at h
      obtain ⟨-, rfl⟩ := h
      simp
    · obtain ⟨⟨n, r⟩, hr, heq⟩ := Option.map_eq_some_iff.mp h
      simp only [Prod.mk.injEq] at heq
      obtain ⟨-, rfl⟩ := heq
      exact Nat.le_succ_of_le (ih hr)

theorem readName_length (s : List Char) : (readName s).2.length ≤ s.length := by
  unfold readName
  split
  · next s =>
    split
    · next h => exact Nat.le_succ_of_le (closeName_length h)
    · simp
  · simp

theorem readAmount_length (s : List Char) : (readAmount s).2.length ≤ s.length := by
  unfold readAmount
  split
  · simp
  · split
    · simp
    · exact (List.dropWhile_sublist _).length_le

theorem readPrecision_length (s : List Char) : (readPrecision s).2.length ≤ s.length := by
  unfold readPrecision
  split
  · next s =>
    have h := readAmount_length s
    split
    · next rest hr => rw [hr] at h; exact Nat.le_succ_of_le h
    · exact Nat.le_succ_of_le h
  · simp

theorem skipSize_length (s : List Char) : (skipSize s).length ≤ s.length := by
  unfold skipSize
  split
  · split <;> simp
  · simp

/-- A directive is never longer than the text it is read from. -/
theorem read_length (s : List Char) : (Directive.read s).2.length ≤ s.length := by
  have hname := readName_length s
  have hflags := (List.dropWhile_sublist isFlag (l := (readName s).2)).length_le
  have hwidth := readAmount_length ((readName s).2.dropWhile isFlag)
  have hprecision := readPrecision_length (readAmount ((readName s).2.dropWhile isFlag)).2
  have hsize := skipSize_length
    (readPrecision (readAmount ((readName s).2.dropWhile isFlag)).2).2
  simp only [Directive.read]
  split
  · simp
  · next h =>
    rw [h, List.length_cons] at hsize
    dsimp only
    omega

/-! ### Templates -/

/-- A piece of a template: a character that stands for itself, or a directive
with the number of characters that follow it. -/
inductive Piece where
  | char (c : Char)
  | directive (d : Directive) (after : Nat)
deriving DecidableEq, Repr

/-- A template as its characters and its directives. Two percent signs in a row
are one that stands for itself. -/
def pieces : List Char → List Piece
  | [] => []
  | '%' :: '%' :: s => .char '%' :: pieces s
  | c :: s =>
    if c = '%' then
      have : (Directive.read s).2.length < s.length + 1 := Nat.lt_succ_of_le (read_length s)
      .directive (Directive.read s).1 (Directive.read s).2.length :: pieces (Directive.read s).2
    else .char c :: pieces s
termination_by s => s.length

end QueryOrder.Template
