import RecordMapper.Criteria.Basic
import RecordMapper.Criteria.Wildcard
import RecordMapper.Text.LowerCase

/-! # When a record matches a clause

A missing field reads as null. Nothing is converted: order tests compare numbers with numbers and
texts with texts and fail on any other pair. Text tests ignore case: they look for the lower case of
their operand in the lower case of the value.
-/

namespace RecordMapper

/-- The order of two values, if they are two numbers or two texts. Texts are ordered by code point. -/
def Json.order? : Json → Json → Option Ordering
  | .number first, .number second => some (first.order second)
  | .text first, .text second => some (compare first second)
  | _, _ => none

/-- Whether a text holds a part anywhere within it. -/
def holdsPart (part : List Char) : List Char → Bool
  | [] => part.isEmpty
  | char :: rest => part.isPrefixOf (char :: rest) || holdsPart part rest

namespace Test

/-- Whether the lower case of a value is in a relation to the lower case of an operand. Only texts
have a lower case. -/
def lowered (relation : List Char → List Char → Bool) (operand : String) (value : Json) : Bool :=
  match value with
  | .text content => relation (Text.lower operand) (Text.lower content)
  | _ => false

/-- Whether a value passes the test. -/
def passes (value : Json) : Test → Bool
  | .equals expected => value.same expected
  | .differs other => !value.same other
  | .among values => values.any fun expected => expected.same value
  | .notAmong values => !values.any fun other => other.same value
  | .above bound => value.order? bound == some .gt
  | .atLeast bound => value.order? bound == some .gt || value.order? bound == some .eq
  | .below bound => value.order? bound == some .lt
  | .atMost bound => value.order? bound == some .lt || value.order? bound == some .eq
  | .contains part => lowered holdsPart part value
  | .startsWith start => lowered List.isPrefixOf start value
  | .endsWith ending => lowered List.isSuffixOf ending value
  | .like pattern => lowered Wildcard.accepts pattern value

end Test

/-- The value of a record under a name; a missing one reads as null. -/
def Record.read (record : Record) (name : String) : Json :=
  (Dictionary.get? record name).getD .null

/-- Whether a record passes the test of a predicate. -/
def Predicate.accepts (predicate : Predicate) (record : Record) : Bool :=
  predicate.test.passes (Record.read record predicate.field)

namespace Clause

mutual

/-- Whether a record matches a clause. -/
def accepts (record : Record) : Clause → Bool
  | .and parts => acceptsEvery record parts
  | .or parts => acceptsSome record parts
  | .leaf predicate => predicate.accepts record

/-- Whether a record matches every one of a list of clauses. -/
def acceptsEvery (record : Record) : List Clause → Bool
  | [] => true
  | part :: rest => accepts record part && acceptsEvery record rest

/-- Whether a record matches at least one of a list of clauses. -/
def acceptsSome (record : Record) : List Clause → Bool
  | [] => false
  | part :: rest => accepts record part || acceptsSome record rest

end

end Clause

end RecordMapper
