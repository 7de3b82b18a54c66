import RecordMapper.Text.Hidden

/-! # Text quoted for a reader

A quoted text shows what it holds: quotes and backslashes are escaped, and a character that does not
show is written by its code point.
-/

namespace RecordMapper.Text

/-- One character of a quoted text. -/
def inspectChar (char : Char) : List Char :=
  match char.toNat with
  | 0x22 => ['\\', char]
  | 0x5c => ['\\', char]
  | 0x00 => ['\\', '0']
  | 0x09 => ['\\', 't']
  | 0x0a => ['\\', 'n']
  | 0x0d => ['\\', 'r']
  | code =>
    if isHidden char then
      '\\' :: 'u' :: Char.ofNat 0x7b :: Nat.toDigits 16 code ++ [Char.ofNat 0x7d]
    else [char]

/-- A text in quotes. -/
def inspect (content : String) : String :=
  "\"" ++ String.ofList (content.toList.flatMap inspectChar) ++ "\""

/-- A list of quoted texts in brackets. -/
def inspectList (contents : List String) : String :=
  "[" ++ ", ".intercalate (contents.map inspect) ++ "]"

end RecordMapper.Text
