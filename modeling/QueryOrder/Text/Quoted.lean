/-
Quoted texts and byte strings.

* `quote`: a text between two quotes, with every character that is not printable
  written by its number;
* `quoteBytes`: the same for bytes, after a `b`;
* `quoteMark`: the quote is the single one, unless the text holds a single quote
  and no double one.
-/
import QueryOrder.Text.Printable

namespace QueryOrder.Text

/-! ### Numbers in base sixteen -/

/-- A number in base sixteen, with leading zeros up to the given width. -/
def hexadecimal (width n : Nat) : List Char :=
  let digits := Nat.toDigits 16 n
  List.replicate (width - digits.length) '0' ++ digits

/-! ### Quoting -/

/-- The quote that encloses a text: the double one only where it saves the
single ones of the text from being escaped. -/
def quoteMark (s : List Char) : Char :=
  if s.contains '\'' && !s.contains '"' then '"' else '\''

/-- How one character of a quoted text is written. The backslash and the
enclosing quote are escaped, and the characters that are not printable are given
by name or by number, with as many digits as their size needs. -/
def escape (mark c : Char) : List Char :=
  if c = mark || c = '\\' then ['\\', c]
  else if c = '\n' then ['\\', 'n']
  else if c = '\r' then ['\\', 'r']
  else if c = '\t' then ['\\', 't']
  else if isPrintable c then [c]
  else if c.toNat < 0x100 then '\\' :: 'x' :: hexadecimal 2 c.toNat
  else if c.toNat < 0x10000 then '\\' :: 'u' :: hexadecimal 4 c.toNat
  else '\\' :: 'U' :: hexadecimal 8 c.toNat

/-- A text between quotes. -/
def quote (s : String) : String :=
  let cs := s.toList
  let mark := quoteMark cs
  String.ofList (mark :: (cs.flatMap (escape mark) ++ [mark]))

/-- A byte string between quotes, after a `b`: as a text whose only printable
characters are those of seven bits. -/
def quoteBytes (bytes : List UInt8) : String :=
  let cs := bytes.map fun b => Char.ofNat b.toNat
  let mark := quoteMark cs
  let escapeByte (c : Char) : List Char :=
    if 0x7F ≤ c.toNat then '\\' :: 'x' :: hexadecimal 2 c.toNat else escape mark c
  String.ofList ('b' :: mark :: (cs.flatMap escapeByte ++ [mark]))

/-- A quoted text in seven-bit characters only: the others are given by their
number as well. -/
def quoteAscii (written : String) : String :=
  String.ofList (written.toList.flatMap fun c =>
    if c.toNat < 0x80 then [c]
    else if c.toNat < 0x100 then '\\' :: 'x' :: hexadecimal 2 c.toNat
    else if c.toNat < 0x10000 then '\\' :: 'u' :: hexadecimal 4 c.toNat
    else '\\' :: 'U' :: hexadecimal 8 c.toNat)

end QueryOrder.Text
