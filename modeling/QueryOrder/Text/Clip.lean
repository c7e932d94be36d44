/-
Texts cut to a number of bytes.

A message names the type of a value by at most so many bytes of its name.

* `Text.clip`: the part of a text that is left of it.
-/

namespace QueryOrder.Text

/-- The mark in the place of a character that is there in part only. -/
def cutMark : Char := '\ufffd'

/-- The characters that fit in a number of bytes. The first one that does not is
marked if some of its bytes do. -/
def clipChars : Nat → List Char → List Char
  | _, [] => []
  | room, c :: rest =>
    if c.utf8Size ≤ room then c :: clipChars (room - c.utf8Size) rest
    else if room = 0 then [] else [cutMark]

/-- The part of a text that is left in a number of bytes. -/
def clip (room : Nat) (s : String) : String :=
  String.ofList (clipChars room s.toList)

end QueryOrder.Text
