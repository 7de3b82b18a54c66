/-! # Words of a text

A word is a longest run of characters without Unicode white space.
-/

namespace RecordMapper.Text

/-- The Unicode property `White_Space`. -/
def isBlank (char : Char) : Bool :=
  let code := char.toNat
  (0x9 ≤ code && code ≤ 0xd) || code == 0x20 || code == 0x85 || code == 0xa0 || code == 0x1680 ||
    (0x2000 ≤ code && code ≤ 0x200a) || code == 0x2028 || code == 0x2029 || code == 0x202f ||
    code == 0x205f || code == 0x3000

/-- The words of a text whose characters before it, last first, form the beginning of a word. -/
def wordsAfter (begun : List Char) : List Char → List (List Char)
  | [] => if begun.isEmpty then [] else [begun.reverse]
  | char :: rest =>
    if isBlank char then
      if begun.isEmpty then wordsAfter [] rest else begun.reverse :: wordsAfter [] rest
    else wordsAfter (char :: begun) rest

/-- The words of a text, in order. -/
def words (content : String) : List String :=
  (wordsAfter [] content.toList).map String.ofList

end RecordMapper.Text
