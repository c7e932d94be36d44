/-
Filling in message templates.

* `Template.convert`: the text of a value in a directive;
* `Template.layOut`: that text with its sign, its base and its padding;
* `Template.fill`: a template with its directives replaced by the named values.
-/
import QueryOrder.Template.Directive
import QueryOrder.Value.Mapping

namespace QueryOrder.Template

/-! ### Numbers -/

/-- The integer that a value is. -/
def integer? : Value → Option Int
  | .bool b => some (if b then 1 else 0)
  | .int n => some n
  | .intMember _ _ n => some n
  | _ => none

/-- The integer that an integer conversion shows. A number with a fraction is cut
toward zero, but only for the base ten. -/
def integer (conversion : Char) (decimal : Bool) (v : Value) : Except TemplateFault Int :=
  match integer? v with
  | some n => .ok n
  | none =>
    if decimal then
      match v with
      | .float .nan => .error .nanInteger
      | .float (.infinite _) => .error .infiniteInteger
      | .float x => .ok (x.truncate?.getD 0)
      | v => .error (.notReal conversion v.kind)
    else .error (.notInteger conversion v.kind)

/-- The floating-point number that a value is, or is nearest to. -/
def real (v : Value) : Except TemplateFault Double :=
  match v, integer? v with
  | .float x, _ => .ok x
  | _, some n => match Decimal.nearestDouble? n with
    | some x => .ok x
    | none => .error .integerTooLarge
  | v, none => .error (.notFloat v.kind)

/-- The character that a value is, or is the number of. -/
def character (v : Value) : Except TemplateFault Char :=
  match v.text?, integer? v with
  | some s, _ => match s.toList with
    | [c] => .ok c
    | _ => .error .notCharacter
  | none, some n =>
    if 0 ≤ n && n ≤ 0x10FFFF then .ok (Char.ofNat n.toNat) else .error .characterOutOfRange
  | none, none => .error .notCharacter

/-! ### Layout -/

/-- How a directive lays its value out. -/
structure Layout where
  left : Bool
  plus : Bool
  blank : Bool
  alternate : Bool
  zero : Bool
  width : Nat
  precision : Option Nat
deriving Repr

/-- The text of a value, in the parts that padding may go between. -/
structure Shown where
  sign : List Char
  base : List Char
  digits : List Char
  /-- Whether zeros may fill the width. -/
  numeric : Bool
deriving Repr

/-- A text that is no number. -/
def Shown.plain (s : List Char) : Shown := ⟨[], [], s, false⟩

/-- The sign of a number as the layout shows it. -/
def signOf (layout : Layout) (negative : Bool) : List Char :=
  if negative then ['-']
  else if layout.plus then ['+']
  else if layout.blank then [' ']
  else []

/-- A text in capitals. -/
def capitals (s : List Char) : List Char := s.map Char.toUpper

/-- The largest number of digits that an integer is filled up to. -/
def maxDigits : Nat := Nat.pow 2 31 - 4

/-- An integer in a base, with leading zeros up to the precision. -/
def showInteger (layout : Layout) (base : Nat) (baseMark : List Char) (n : Int) :
    Except TemplateFault Shown :=
  let wanted := layout.precision.getD 0
  if maxDigits < wanted then .error .tooManyDigits
  else
    let digits := Nat.toDigits base n.natAbs
    let zeros := List.replicate (wanted - digits.length) '0'
    .ok ⟨signOf layout (n < 0), if layout.alternate then baseMark else [], zeros ++ digits, true⟩

/-- A written floating-point number, its sign taken off. -/
def showReal (layout : Layout) (written : List Char) : Shown :=
  match written with
  | '-' :: digits => ⟨signOf layout true, [], digits, true⟩
  | digits => ⟨signOf layout false, [], digits, true⟩

/-- The text of a value in a directive, by its conversion. The index is the place
of the conversion in the template. -/
def convert (layout : Layout) (conversion : Char) (index : Nat) (v : Value) :
    Except TemplateFault Shown :=
  let cutTo (s : String) : Shown :=
    .plain (match layout.precision with
      | some n => s.toList.take n
      | none => s.toList)
  let places := layout.precision.getD 6
  let point := layout.alternate
  match conversion with
  | 's' => .ok (cutTo v.shown)
  | 'r' => .ok (cutTo v.written)
  | 'a' => .ok (cutTo (Text.quoteAscii v.written))
  | 'c' => do return .plain [← character v]
  | 'd' | 'i' | 'u' => do showInteger layout 10 [] (← integer conversion true v)
  | 'o' => do showInteger layout 8 ['0', 'o'] (← integer conversion false v)
  | 'x' => do showInteger layout 16 ['0', 'x'] (← integer conversion false v)
  | 'X' => do
    let shown ← showInteger layout 16 ['0', 'X'] (← integer conversion false v)
    return { shown with digits := capitals shown.digits }
  | 'f' => do return showReal layout ((← real v).withPlaces point places).toList
  | 'F' => do return showReal layout (capitals ((← real v).withPlaces point places).toList)
  | 'e' => do return showReal layout ((← real v).withExponent point places).toList
  | 'E' => do return showReal layout (capitals ((← real v).withExponent point places).toList)
  | 'g' => do return showReal layout ((← real v).general point places).toList
  | 'G' => do return showReal layout (capitals ((← real v).general point places).toList)
  | c => .error (.unknownConversion c index)

/-- The largest width that there is room for. -/
def roomyWidth : Nat := Nat.pow 2 32

/-- A text padded to the width of the layout: on the right, on the left, or with
zeros between the sign and the digits of a number. -/
def layOut (layout : Layout) (shown : Shown) : Except TemplateFault (List Char) :=
  let head := shown.sign ++ shown.base
  let missing := layout.width - (head.length + shown.digits.length)
  if roomyWidth < layout.width then .error .tooLong
  else if layout.left then .ok (head ++ shown.digits ++ List.replicate missing ' ')
  else if layout.zero && shown.numeric then
    .ok (head ++ List.replicate missing '0' ++ shown.digits)
  else .ok (List.replicate missing ' ' ++ head ++ shown.digits)

/-! ### Filling in -/

/-- The largest width and the largest precision that can be written down. -/
def maxWidth : Nat := Nat.pow 2 63 - 1

/-- The largest precision that can be written down. -/
def maxPrecision : Nat := Nat.pow 2 31 - 1

/-- An amount, with the value that is left for the directive after it. -/
def amount (limit : Nat) (tooBig takenTooBig : TemplateFault) (a : Amount)
    (left : Option Value) : Except TemplateFault (Option Int × Option Value) :=
  match a, left with
  | .absent, left => .ok (none, left)
  | .given n, left => if n ≤ limit then .ok (some n, left) else .error tooBig
  | .taken, none => .error .noValueLeft
  | .taken, some v => match integer? v with
    | some n => if -limit ≤ n + 1 && n ≤ limit then .ok (some n, none) else .error takenTooBig
    | none => .error .starNotInteger

/-- A directive replaced by the value it names, or by the value that is left for
it, and what is left for the next one. -/
def fillDirective (names : List (String × Value)) (d : Directive) (index : Nat)
    (left : Option Value) : Except TemplateFault (List Char × Option Value) := do
  let left ← match d.name with
    | .absent => pure left
    | .given name => match names.lookup name with
      | some v => pure (some v)
      | none => .error (.missingName name)
    | .unterminated => .error .unterminatedName
  let (width, left) ← amount maxWidth .widthTooBig .takenWidthTooBig d.width left
  let (precision, left) ←
    amount maxPrecision .precisionTooBig .takenPrecisionTooBig d.precision left
  let width := width.getD 0
  let layout : Layout :=
    ⟨d.flags.contains '-' || width < 0, d.flags.contains '+', d.flags.contains ' ',
     d.flags.contains '#', d.flags.contains '0', width.natAbs, precision.map Int.toNat⟩
  match d.conversion, left with
  | none, _ => .error .unfinished
  | some _, none => .error .noValueLeft
  | some conversion, some v =>
    return (← layOut layout (← convert layout conversion index v), none)

/-- The pieces of a template filled in one after the other. The length is that of
the whole template. -/
def fillPieces (names : List (String × Value)) (length : Nat) :
    List Piece → Option Value → Except TemplateFault (List Char)
  | [], _ => .ok []
  | .char c :: rest, left => do return c :: (← fillPieces names length rest left)
  | .directive d after :: rest, left => do
    let (shown, left) ← fillDirective names d (length - after - 1) left
    return shown ++ (← fillPieces names length rest left)

/-- A template with its directives replaced by the named values. A directive
without a name shows all of them, once. -/
def fill (template : String) (names : List (String × Value)) : Except TemplateFault String := do
  let chars := template.toList
  let all := Value.dict (names.map fun (name, v) => (.text name, v))
  return String.ofList (← fillPieces names chars.length (pieces chars) (some all))

end QueryOrder.Template
