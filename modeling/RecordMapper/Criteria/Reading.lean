import RecordMapper.Criteria.Fault
import RecordMapper.Criteria.Simplification
import RecordMapper.Query.CompileError
import RecordMapper.Text.Blank

/-! # Reading raw criteria

Raw criteria are a key, a list of keys, or a dictionary of the top-level keys `where`, `limit`, `skip`,
`sort`, `select` and `omit`; a dictionary without any of them is a clause itself. In a clause `and` and
`or` hold lists of clauses, and any other name is an attribute with an operand, a list of operands, or
a dictionary of modifiers. `Criteria.read` checks all of it against the model, in a fixed order in
which the clause comes first: one that can never match ends the reading with a noop.
-/

namespace RecordMapper

namespace Clause

/-- The attribute of a name, which has to have a column. -/
def storedAttribute (model : Model) (key name : String) : Except CriteriaFault Attribute :=
  match model.attribute? name with
  | none => .error (.unknownAttribute key name model.identity)
  | some declared =>
    if declared.hasColumn then .ok declared else .error (.pluralAssociation key name)

/-- Whether a value can be compared with an attribute of a kind. Null always can, lists and records
never. -/
def isOperand (kind : AttributeKind) (value : Json) : Bool :=
  !value.isList && !value.isRecord &&
    (value.isNull ||
      match kind with
      | .scalar type => type.accepts value
      | .model _ => value.isText || value.isNumber
      | .collection _ _ => false)

/-- A value that has to be an operand for an attribute. -/
def readOperand (name : String) (declared : Attribute) (value : Json) : Except CriteriaFault Json :=
  if isOperand declared.kind value then .ok value else .error (.operand name value)

/-- A list that has to hold operands for an attribute. -/
def readOperands (name : String) (declared : Attribute) (items : List Json) :
    Except CriteriaFault (List Json) :=
  items.mapM (readOperand name declared)

/-- The test that a modifier makes with its operand. -/
def readModifier (name : String) (declared : Attribute) (modifier : String) (operand : Json) :
    Except CriteriaFault Test :=
  let list (test : List Json → Test) : Except CriteriaFault Test :=
    match operand with
    | .list items => (readOperands name declared items).map test
    | got => .error (.modifierOperand modifier name "list" got)
  let comparable (test : Json → Test) : Except CriteriaFault Test :=
    if operand.isNumber || operand.isText then .ok (test operand)
    else .error (.modifierOperand modifier name "number or string" operand)
  let text (test : String → Test) : Except CriteriaFault Test :=
    match operand with
    | .text content => .ok (test content)
    | got => .error (.modifierOperand modifier name "string" got)
  match modifier with
  | "in" => list .among
  | "nin" => list .notAmong
  | "<" => comparable .below
  | "<=" => comparable .atMost
  | ">" => comparable .above
  | ">=" => comparable .atLeast
  | "!=" => (readOperand name declared operand).map .differs
  | "contains" => text .contains
  | "startsWith" => text .startsWith
  | "endsWith" => text .endsWith
  | "like" => text .like
  | _ => .error (.unknownModifier modifier name)

/-- The predicates that the entry of an attribute in a clause makes. -/
def readConstraint (model : Model) (name : String) (value : Json) :
    Except CriteriaFault (List Clause) := do
  let declared ← storedAttribute model "where" name
  match value with
  | .list items => return [.leaf ⟨name, .among (← readOperands name declared items)⟩]
  | .record [] => .error (.noModifiers name)
  | .record modifiers =>
    modifiers.mapM fun (modifier, operand) => do
      return .leaf ⟨name, ← readModifier name declared modifier operand⟩
  | operand => return [.leaf ⟨name, .equals (← readOperand name declared operand)⟩]

mutual

/-- The clause that a dictionary writes. The entry of a single predicate or connective stands for
itself; several are a conjunction. -/
def read (model : Model) : Json → Except CriteriaFault Clause
  | .record entries => (readEntries model entries).map (collapse .and)
  | got => .error (.clauseShape got)

/-- The parts that the entries of a dictionary bring into a conjunction. -/
def readEntries (model : Model) : List (String × Json) → Except CriteriaFault (List Clause)
  | [] => .ok []
  | (name, value) :: rest => do
    let parts ←
      if name = "and" ∨ name = "or" then
        match value with
        | .list (branch :: branches) => do
          let parts ← readBranches model (branch :: branches)
          pure [if name = "and" then .and parts else .or parts]
        | _ => .error (.branchesShape name)
      else readConstraint model name value
    let others ← readEntries model rest
    return parts ++ others

/-- The clauses that a list writes. -/
def readBranches (model : Model) : List Json → Except CriteriaFault (List Clause)
  | [] => .ok []
  | branch :: rest => do
    let part ← read model branch
    let parts ← readBranches model rest
    return part :: parts

end

end Clause

namespace SortTerm

/-- The direction that a word writes, in letters of either case. -/
def direction? (word : String) : Option Direction :=
  match word.toUpper with
  | "ASC" => some .ascending
  | "DESC" => some .descending
  | _ => none

/-- A sort term of an attribute and the word of a direction. -/
def ofWords (model : Model) (name word : String) : Except CriteriaFault SortTerm := do
  let _ ← Clause.storedAttribute model "sort" name
  match direction? word with
  | some direction => return ⟨name, direction⟩
  | none => .error (.directionWord name word)

/-- The sort terms that a text or a dictionary writes. -/
def readItem (model : Model) : Json → Except CriteriaFault (List SortTerm)
  | .text term =>
    match Text.words term with
    | [name] => (ofWords model name "ASC").map ([·])
    | [name, word] => (ofWords model name word).map ([·])
    | _ => .error (.sortTerm term)
  | .record [] => .ok []
  | .record [(name, .text word)] => (ofWords model name word).map ([·])
  | .record [(name, got)] => .error (.directionShape name got)
  | .record entries => .error (.sortSeveral (.record entries))
  | got => .error (.sortShape got)

/-- The sort terms that a text, a dictionary or a list of these writes. -/
def read (model : Model) : Json → Except CriteriaFault (List SortTerm)
  | .list items => do
    let terms ← items.mapM fun item =>
      if item.isList then .error .sortNested else readItem model item
    return terms.flatten
  | item => readItem model item

end SortTerm

namespace Criteria

/-- The names in a list of names, each where it stands first. -/
def readNames (key : String) : Json → Except CriteriaFault (List String)
  | .list items => do
    let names ← items.mapM fun item =>
      match item with
      | .text name => .ok name
      | got => .error (.nameShape key got)
    return names.eraseDups
  | _ => .error (.namesShape key)

/-- The attributes to show, the key always among them; a star alone shows all. -/
def readSelection (model : Model) (raw : Json) : Except CriteriaFault (Option (List String)) := do
  let names ← readNames "select" raw
  if names.contains "*" then
    if 1 < names.length then .error .starNotAlone else return none
  else
    names.forM fun name => (Clause.storedAttribute model "select" name).map fun _ => ()
    return some (if names.contains model.primaryKey then names else model.primaryKey :: names)

/-- The attributes to leave out, the key never among them. -/
def readOmission (model : Model) (raw : Json) : Except CriteriaFault (List String) := do
  let names ← readNames "omit" raw
  names.forM fun name => do
    let _ ← Clause.storedAttribute model "omit" name
    if name = model.primaryKey then .error .omitsPrimaryKey
  return names

/-- The top-level keys of criteria. -/
def topLevelKeys : List String :=
  ["where", "limit", "skip", "sort", "select", "omit"]

/-- A dictionary of criteria by its top-level keys. Other entries are an implicit clause, unless a
clause is given as well. -/
def topLevel (entries : Record) : Except CriteriaFault Record :=
  let (known, others) := entries.partition fun entry => topLevelKeys.contains entry.1
  if known.isEmpty then .ok [("where", .record entries)]
  else if others.isEmpty then .ok known
  else if Dictionary.contains known "where" then .error (.strayKeys (Dictionary.names others))
  else .ok (Dictionary.insert known "where" (.record others))

/-- Raw criteria by their top-level keys; `none` when there are none at all. -/
def entriesOf (model : Model) : Option Json → Except CriteriaFault (Option Record)
  | none | some .null => .ok none
  | some (.record entries) => (topLevel entries).map some
  | some (.list keys) => .ok (some [("where", .record [(model.primaryKey, .record [("in", .list keys)])])])
  | some (.text key) => .ok (some [("where", .record [(model.primaryKey, .text key)])])
  | some (.number key) => .ok (some [("where", .record [(model.primaryKey, .number key)])])
  | some got => .error (.shape got)

/-- Whether a method allows a top-level key. -/
def allowsKey (method : Method) (key : String) : Bool :=
  match key with
  | "where" => true
  | "limit" | "skip" | "sort" => method.allowsPaging
  | _ => method.allowsProjection

/-- Every top-level key has to be one that the method allows. -/
def checkKeys (method : Method) (entries : Record) : Except CriteriaFault Unit :=
  match (Dictionary.names entries).find? fun key => !allowsKey method key with
  | some key => .error (.keyNotAllowed key method)
  | none => .ok ()

/-- A count that stands under a key. -/
def readCount (key : String) (raw : Json) : Except CriteriaFault Nat :=
  match raw.nat? with
  | some count => .ok count
  | none => .error (.notCount key raw)

/-- What a reader makes of the entry of a key, or a default without one. -/
def readKey {α : Type} (entries : Record) (key : String) (read : Json → Except CriteriaFault α)
    (default : α) : Except CriteriaFault α :=
  match Dictionary.get? entries key with
  | some raw => read raw
  | none => .ok default

/-- A fault of criteria as an error of compilation. -/
def invalid {α : Type} (result : Except CriteriaFault α) : Except CompileError α :=
  result.mapError fun fault => .invalid .criteria fault.message

/-- The criteria that raw criteria write for a method, checked against a model. -/
def read (model : Model) (method : Method) (raw : Option Json) : Except CompileError Criteria := do
  match ← invalid (entriesOf model raw) with
  | none => return {}
  | some entries =>
    invalid (checkKeys method entries)
    let clause ← invalid (readKey entries "where" (Clause.read model) .everything)
    let clause ←
      match clause.simplify with
      | some clause => .ok clause
      | none => .error (.noop "`where` clause can never match any record")
    let skip ← invalid (readKey entries "skip" (readCount "skip") 0)
    let sort ← invalid (readKey entries "sort" (SortTerm.read model) [])
    let selection ← invalid (readKey entries "select" (readSelection model) none)
    if selection.isSome && Dictionary.contains entries "omit" then
      .error (.invalid .criteria CriteriaFault.selectAndOmit.message)
    let omission ← invalid (readKey entries "omit" (readOmission model) [])
    let limit ← invalid (readKey entries "limit" (fun raw => (readCount "limit" raw).map some) none)
    if limit = some 0 then .error (.noop "`limit` is zero")
    return { clause, limit, skip, sort, selection, omission }

end Criteria

end RecordMapper
