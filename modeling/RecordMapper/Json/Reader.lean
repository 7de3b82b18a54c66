import RecordMapper.Double.Literal
import RecordMapper.Json.Document

/-! # Reading JSON text

A text is cut into tokens (`Token.scan?`) and the tokens are put together to a document
(`Document.parse?`). Both walk their input once; the fuel they carry is the length of that input, of
which every step takes at least one element.
-/

namespace RecordMapper

/-- A token of JSON text. -/
inductive Token where
  | openList
  | closeList
  | openRecord
  | closeRecord
  | comma
  | colon
  | null
  | bool (value : Bool)
  | number (value : Option Number)
  | text (content : Option String)
deriving Inhabited

namespace Token

/-- The blanks that may stand between tokens. -/
def isBlank (char : Char) : Bool :=
  char = ' ' || char = '\n' || char = '\r' || char = '\t'

/-- The value of a decimal digit. -/
def digitValue (digit : Char) : Nat :=
  digit.toNat - '0'.toNat

/-- The number that digits write, most significant first. -/
def digitsValue (digits : List Char) : Nat :=
  digits.foldl (fun value digit => 10 * value + digitValue digit) 0

/-- The value of a hexadecimal digit of either case. -/
def hexValue? (char : Char) : Option Nat :=
  if '0' ≤ char ∧ char ≤ '9' then some (char.toNat - '0'.toNat)
  else if 'a' ≤ char ∧ char ≤ 'f' then some (char.toNat - 'a'.toNat + 10)
  else if 'A' ≤ char ∧ char ≤ 'F' then some (char.toNat - 'A'.toNat + 10)
  else none

/-- A UTF-16 unit of four hexadecimal digits, and the rest. -/
def unit? : List Char → Option (Nat × List Char)
  | a :: b :: c :: d :: rest => do
    let a ← hexValue? a
    let b ← hexValue? b
    let c ← hexValue? c
    let d ← hexValue? d
    return (((a * 16 + b) * 16 + c) * 16 + d, rest)
  | _ => none

/-- The character that a backslash and this one stand for. -/
def simpleEscape? (char : Char) : Option Char :=
  match char.toNat with
  | 0x22 => some char
  | 0x5c => some char
  | 0x2f => some char
  | 0x62 => some (Char.ofNat 0x08)
  | 0x66 => some (Char.ofNat 0x0c)
  | 0x6e => some '\n'
  | 0x72 => some '\r'
  | 0x74 => some '\t'
  | _ => none

/-- The text up to the closing quote, and the rest. The content is absent when it holds half a
surrogate pair; a bare control character or an unknown escape is no text at all. -/
def textBody? : Nat → List Char → Option (Option (List Char) × List Char)
  | 0, _ => none
  | _ + 1, [] => none
  | fuel + 1, char :: rest =>
    let after (content : Option (List Char)) (rest : List Char) : Option (Option (List Char) × List Char) :=
      (textBody? fuel rest).map fun (tail, rest) =>
        (content.bind fun content => tail.map fun tail => content ++ tail, rest)
    if char.toNat = 0x22 then some (some [], rest)
    else if char.toNat < 0x20 then none
    else if char.toNat = 0x5c then
      match rest with
      | [] => none
      | 'u' :: rest =>
        match unit? rest with
        | none => none
        | some (high, rest) =>
          if 0xd800 ≤ high ∧ high < 0xdc00 then
            match rest with
            | '\\' :: 'u' :: others =>
              match unit? others with
              | none => none
              | some (low, others) =>
                if 0xdc00 ≤ low ∧ low < 0xe000 then
                  after (some [Char.ofNat (0x10000 + (high - 0xd800) * 0x400 + (low - 0xdc00))]) others
                else after none rest
            | _ => after none rest
          else if 0xdc00 ≤ high ∧ high < 0xe000 then after none rest
          else after (some [Char.ofNat high]) rest
      | escape :: rest =>
        match simpleEscape? escape with
        | some char => after (some [char]) rest
        | none => none
    else after (some [char]) rest

/-- The exponent of a number, if one is written, and the rest. -/
def exponent? : List Char → Option (Option Int × List Char)
  | mark :: rest =>
    if mark = 'e' ∨ mark = 'E' then
      let (negative, rest) := match rest with
        | '-' :: rest => (true, rest)
        | '+' :: rest => (false, rest)
        | rest => (false, rest)
      let digits := rest.takeWhile Char.isDigit
      if digits.isEmpty then none
      else
        let size : Int := digitsValue digits
        some (some (if negative then -size else size), rest.dropWhile Char.isDigit)
    else some (none, mark :: rest)
  | [] => some (none, [])

/-- The fraction digits of a number, if a point is written, and the rest. -/
def fraction? : List Char → Option (Option (List Char) × List Char)
  | '.' :: rest =>
    let digits := rest.takeWhile Char.isDigit
    if digits.isEmpty then none else some (some digits, rest.dropWhile Char.isDigit)
  | rest => some (none, rest)

/-- A number after its sign, and the rest. Without fraction and exponent it is an integer if it is in
range; otherwise it is the double of its literal. A leading zero stands alone. -/
def numberBody? (negative : Bool) (chars : List Char) : Option (Option Number × List Char) := do
  let digits := chars.takeWhile Char.isDigit
  if digits.isEmpty || (digits.head? == some '0' && 1 < digits.length) then none
  else
    let (fraction, rest) ← fraction? (chars.dropWhile Char.isDigit)
    let (exponent, rest) ← exponent? rest
    let literal :=
      Literal.ofDigits (digits.map digitValue) ((fraction.getD []).map digitValue) (exponent.getD 0)
    let double := (literal.toDouble? negative).map Number.double
    if fraction.isNone && exponent.isNone then
      return ((Number.ofInteger? negative (digitsValue digits)).or double, rest)
    else return (double, rest)

/-- A word that stands for a value. -/
def word? (chars : List Char) : Option (Token × List Char) :=
  match chars with
  | 'n' :: 'u' :: 'l' :: 'l' :: rest => some (.null, rest)
  | 't' :: 'r' :: 'u' :: 'e' :: rest => some (.bool true, rest)
  | 'f' :: 'a' :: 'l' :: 's' :: 'e' :: rest => some (.bool false, rest)
  | _ => none

/-- The first token of a text that starts with no blank, and the rest. -/
def next? (chars : List Char) : Option (Token × List Char) :=
  match chars with
  | [] => none
  | char :: rest =>
    match char.toNat with
    | 0x5b => some (.openList, rest)
    | 0x5d => some (.closeList, rest)
    | 0x7b => some (.openRecord, rest)
    | 0x7d => some (.closeRecord, rest)
    | 0x2c => some (.comma, rest)
    | 0x3a => some (.colon, rest)
    | 0x22 => (textBody? (rest.length + 1) rest).map fun (content, rest) => (.text (content.map String.ofList), rest)
    | 0x2d => (numberBody? true rest).map fun (value, rest) => (.number value, rest)
    | _ =>
      if char.isDigit then (numberBody? false chars).map fun (value, rest) => (.number value, rest)
      else word? chars

/-- All tokens of a text. -/
def scanFrom? : Nat → List Char → Option (List Token)
  | 0, _ => none
  | fuel + 1, chars =>
    match chars.dropWhile isBlank with
    | [] => some []
    | chars => do
      let (token, rest) ← next? chars
      let tokens ← scanFrom? fuel rest
      return token :: tokens

/-- All tokens of a text. -/
def scan? (text : String) : Option (List Token) :=
  scanFrom? (text.toList.length + 1) text.toList

end Token

namespace Document

mutual

/-- The document at the front of the tokens, and the rest. -/
def value? : Nat → List Token → Option (Document × List Token)
  | 0, _ => none
  | fuel + 1, tokens =>
    match tokens with
    | .null :: rest => some (.null, rest)
    | .bool value :: rest => some (.bool value, rest)
    | .number value :: rest => some (.number value, rest)
    | .text content :: rest => some (.text content, rest)
    | .openList :: .closeList :: rest => some (.list [], rest)
    | .openList :: rest => (items? fuel rest).map fun (items, rest) => (.list items, rest)
    | .openRecord :: .closeRecord :: rest => some (.record [], rest)
    | .openRecord :: rest => (pairs? fuel rest).map fun (members, rest) => (.record members, rest)
    | _ => none

/-- One or more items up to the end of their list, and the rest. -/
def items? : Nat → List Token → Option (List Document × List Token)
  | 0, _ => none
  | fuel + 1, tokens => do
    let (item, rest) ← value? fuel tokens
    match rest with
    | .comma :: rest =>
      let (items, rest) ← items? fuel rest
      return (item :: items, rest)
    | .closeList :: rest => return ([item], rest)
    | _ => none

/-- One or more members up to the end of their record, and the rest. -/
def pairs? : Nat → List Token → Option (List (Option String × Document) × List Token)
  | 0, _ => none
  | fuel + 1, tokens =>
    match tokens with
    | .text name :: .colon :: tokens => do
      let (member, rest) ← value? fuel tokens
      match rest with
      | .comma :: rest =>
        let (members, rest) ← pairs? fuel rest
        return ((name, member) :: members, rest)
      | .closeRecord :: rest => return ([(name, member)], rest)
      | _ => none
    | _ => none

end

/-- The document that a text writes, with nothing after it. -/
def parse? (text : String) : Option Document := do
  let tokens ← Token.scan? text
  let (document, rest) ← value? (2 * tokens.length + 1) tokens
  if rest.isEmpty then some document else none

end Document

/-- The value that a text writes. -/
def Json.parse? (text : String) : Option Json :=
  (Document.parse? text).bind (Document.toJson? Document.depthLimit)

end RecordMapper
