import RecordMapper.Json.Printer
import RecordMapper.Model.Basic
import RecordMapper.Query.Method
import RecordMapper.Text.Quoted

/-! # What can be wrong with raw criteria

A `CriteriaFault` says where raw criteria leave their grammar or do not fit their model, and
`CriteriaFault.message` puts it into words.
-/

namespace RecordMapper

/-- What is wrong with raw criteria. -/
inductive CriteriaFault where
  /-- Neither a dictionary, nor a key, nor a list of keys. -/
  | shape (got : Json)
  /-- A top-level key that the method does not allow. -/
  | keyNotAllowed (key : String) (method : Method)
  /-- Keys that are neither top-level keys nor, beside `where`, an implicit clause. -/
  | strayKeys (keys : List String)
  | notCount (key : String) (got : Json)
  | selectAndOmit
  | unknownAttribute (key name model : String)
  | pluralAssociation (key name : String)
  | clauseShape (got : Json)
  | branchesShape (connective : String)
  | noModifiers (name : String)
  | unknownModifier (modifier name : String)
  /-- A modifier whose operand is not of the kind it requires. -/
  | modifierOperand (modifier name required : String) (got : Json)
  | operand (name : String) (got : Json)
  | sortShape (got : Json)
  | sortSeveral (got : Json)
  | sortNested
  | sortTerm (term : String)
  | directionWord (name direction : String)
  | directionShape (name : String) (got : Json)
  | namesShape (key : String)
  | nameShape (key : String) (got : Json)
  | starNotAlone
  | omitsPrimaryKey
deriving Inhabited

namespace CriteriaFault

/-- What is wrong, in words. -/
def message : CriteriaFault → String
  | .shape got =>
    s!"Expected a dictionary, a primary key value or a list of primary keys, but got: {got.compact}"
  | .keyNotAllowed key method => s!"Cannot use `{key}` with `.{method.name}()`"
  | .strayKeys keys =>
    s!"Unrecognized top-level key(s) alongside `where`: {Text.inspectList keys}"
  | .notCount key got => s!"`{key}` must be a non-negative integer, but got: {got.compact}"
  | .selectAndOmit => "Cannot use both `select` and `omit`"
  | .unknownAttribute key name model =>
    s!"`{key}` references unknown attribute `{name}` of model `{model}`"
  | .pluralAssociation key name => s!"`{key}` cannot reference plural association `{name}`"
  | .clauseShape got => s!"`where` must be a dictionary, but got: {got.compact}"
  | .branchesShape connective => s!"`{connective}` must be a non-empty list of where clauses"
  | .noModifiers name => s!"Empty modifier dictionary for `{name}`"
  | .unknownModifier modifier name => s!"Unrecognized modifier `{modifier}` on `{name}`"
  | .modifierOperand modifier name required got =>
    s!"`{modifier}` modifier on `{name}` requires a {required}, but got: {got.compact}"
  | .operand name got => s!"Invalid operand for `{name}`: {got.compact}"
  | .sortShape got => s!"`sort` must be a string, a dictionary or a list, but got: {got.compact}"
  | .sortSeveral got =>
    s!"A `sort` dictionary may name only one attribute; use a list of them to sort on several, " ++
      s!"but got: {got.compact}"
  | .sortNested => "`sort` lists cannot nest"
  | .sortTerm term =>
    s!"Sort term must look like \"attribute ASC\", but got: {Text.inspect term}"
  | .directionWord name direction =>
    s!"Sort direction for `{name}` must be \"ASC\" or \"DESC\", but got: {Text.inspect direction}"
  | .directionShape name got =>
    s!"Sort direction for `{name}` must be \"ASC\" or \"DESC\", but got: {got.compact}"
  | .namesShape key => s!"`{key}` must be a list of attribute names"
  | .nameShape key got => s!"`{key}` must be a list of attribute names, but found: {got.compact}"
  | .starNotAlone => "`*` cannot be combined with other attributes in `select`"
  | .omitsPrimaryKey => "Cannot omit the primary key"

end CriteriaFault

end RecordMapper
