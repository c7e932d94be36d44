/-
Blank characters and trimming.

* `isBlank`: the characters that a reader sees as empty space, in every script;
* `trim`: a text without the blank characters at its two ends;
* `trim_eq_nil_iff`: trimming leaves nothing exactly when every character is
  blank.
-/

namespace QueryOrder.Text

/-! ### The blank characters -/

/-- The blank characters: the line and page controls, the four separator
controls, the space, and the spaces and line separators of the other scripts.
The zero-width characters are not among them. -/
def isBlank (c : Char) : Bool :=
  let n := c.toNat
  (9 ≤ n && n ≤ 13) || (28 ≤ n && n ≤ 32) || n == 0x85 || n == 0xA0 || n == 0x1680 ||
    (0x2000 ≤ n && n ≤ 0x200A) || n == 0x2028 || n == 0x2029 || n == 0x202F || n == 0x205F ||
    n == 0x3000

/-- A comma is not blank. -/
theorem isBlank_comma : isBlank ',' = false := by decide

/-- A colon is not blank. -/
theorem isBlank_colon : isBlank ':' = false := by decide

/-! ### Trimming -/

/-- A text without its trailing blank characters. -/
def trimEnd (s : List Char) : List Char :=
  (s.reverse.dropWhile isBlank).reverse

/-- A text without its leading and trailing blank characters. -/
def trim (s : List Char) : List Char :=
  trimEnd (s.dropWhile isBlank)

/-- Trimming a string. -/
def trimmed (s : String) : String :=
  String.ofList (trim s.toList)

@[simp] theorem toList_trimmed (s : String) : (trimmed s).toList = trim s.toList := by
  simp [trimmed]

@[simp] theorem trimEnd_nil : trimEnd [] = [] := rfl

/-- A blank text has nothing to drop up to. -/
theorem dropWhile_isBlank_eq_nil_iff {s : List Char} :
    s.dropWhile isBlank = [] ↔ ∀ c ∈ s, isBlank c = true := by
  induction s with
  | nil => simp
  | cons c s ih => by_cases hc : isBlank c <;> simp_all

/-- Nothing is left exactly of the texts that are blank throughout. -/
theorem trimEnd_eq_nil_iff {s : List Char} : trimEnd s = [] ↔ ∀ c ∈ s, isBlank c = true := by
  rw [trimEnd, List.reverse_eq_nil_iff, dropWhile_isBlank_eq_nil_iff]
  simp

/-- Nothing is left exactly of the texts that are blank throughout. -/
theorem trim_eq_nil_iff {s : List Char} : trim s = [] ↔ ∀ c ∈ s, isBlank c = true := by
  rw [trim, trimEnd_eq_nil_iff]
  induction s with
  | nil => simp
  | cons c s ih => by_cases hc : isBlank c <;> simp_all

end QueryOrder.Text
