import RecordMapper.Json.Basic

/-! # The compact text of a JSON value

No blanks, fields in the order of their names. Within quotes only the quote, the backslash and the
control characters are escaped.
-/

namespace RecordMapper

namespace Json

/-- A lower-case hexadecimal digit. -/
def hexDigit (value : Nat) : Char :=
  Nat.digitChar value

/-- One character of a quoted text. Control characters without an escape of their own are written
with four hexadecimal digits. -/
def escape (char : Char) : List Char :=
  let code := char.toNat
  if code = 0x22 then ['\\', char]
  else if code = 0x5c then ['\\', '\\']
  else if code = 0x08 then ['\\', 'b']
  else if code = 0x0c then ['\\', 'f']
  else if code = 0x0a then ['\\', 'n']
  else if code = 0x0d then ['\\', 'r']
  else if code = 0x09 then ['\\', 't']
  else if code < 0x20 then ['\\', 'u', '0', '0', hexDigit (code / 16), hexDigit (code % 16)]
  else [char]

/-- A text within quotes. -/
def quote (content : String) : String :=
  "\"" ++ String.ofList (content.toList.flatMap escape) ++ "\""

mutual

/-- The compact text of a value. -/
def compact : Json → String
  | .null => "null"
  | .bool true => "true"
  | .bool false => "false"
  | .number value => value.text
  | .text content => quote content
  | .list items => "[" ++ ",".intercalate (compactItems items) ++ "]"
  | .record fields => "\x7b" ++ ",".intercalate (compactFields fields) ++ "\x7d"

/-- The texts of the items of a list. -/
def compactItems : List Json → List String
  | [] => []
  | item :: rest => compact item :: compactItems rest

/-- The texts of the fields of a record, each its quoted name, a colon and its value. -/
def compactFields : List (String × Json) → List String
  | [] => []
  | (name, value) :: rest => (quote name ++ ":" ++ compact value) :: compactFields rest

end

end Json

end RecordMapper
