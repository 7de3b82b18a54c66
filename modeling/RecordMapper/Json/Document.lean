import RecordMapper.Json.Basic

/-! # Documents: JSON as it was written

A `Document` keeps what a value forgets: the order of members, a name given twice, a number out of
range, text with half a surrogate pair. Definitions with fixed fields are read from it (`fields?`),
because for them a field given twice is an error and an unknown one is skipped unread. Any other
content is read by `toJson?`, where of a repeated name the last member counts.
-/

namespace RecordMapper

/-- A well-formed JSON text. A number beyond every double and a text that is not Unicode are written
but denote nothing. -/
inductive Document where
  | null
  | bool (value : Bool)
  | number (value : Option Number)
  | text (content : Option String)
  | list (items : List Document)
  | record (members : List (Option String × Document))
deriving Inhabited

namespace Document

mutual

/-- The value that a document denotes, if all its parts denote something and lists and records nest
no deeper than `depth`. -/
def toJson? (depth : Nat) : Document → Option Json
  | .null => some .null
  | .bool value => some (.bool value)
  | .number value => value.map .number
  | .text content => content.map .text
  | .list items =>
    match depth with
    | 0 => none
    | depth + 1 => (itemsToJson? depth items).map .list
  | .record members =>
    match depth with
    | 0 => none
    | depth + 1 => (membersToJson? depth members).map fun entries => .record (Dictionary.ofList entries)

/-- The values of the items of a list. -/
def itemsToJson? (depth : Nat) : List Document → Option (List Json)
  | [] => some []
  | item :: rest => do
    let value ← toJson? depth item
    let values ← itemsToJson? depth rest
    return value :: values

/-- The names and values of the members of a record, in the order written. -/
def membersToJson? (depth : Nat) : List (Option String × Document) → Option (List (String × Json))
  | [] => some []
  | (name, member) :: rest => do
    let name ← name
    let value ← toJson? depth member
    let entries ← membersToJson? depth rest
    return (name, value) :: entries

end

mutual

/-- The document of a value. -/
def ofJson : Json → Document
  | .null => .null
  | .bool value => .bool value
  | .number value => .number (some value)
  | .text content => .text (some content)
  | .list items => .list (ofItems items)
  | .record fields => .record (ofFields fields)

/-- The documents of the items of a list. -/
def ofItems : List Json → List Document
  | [] => []
  | item :: rest => ofJson item :: ofItems rest

/-- The members of a record. -/
def ofFields : List (String × Json) → List (Option String × Document)
  | [] => []
  | (name, value) :: rest => (some name, ofJson value) :: ofFields rest

end

/-- How deep lists and records may nest in a text that is read. -/
def depthLimit : Nat := 127

/-- The one member of each given name, in the order of the names; `none` when a name is given
twice. -/
def members? (members : List (Option String × Document)) : List String → Option (List (Option Document))
  | [] => some []
  | name :: names => do
    let rest ← members? members names
    match members.filter fun member => member.1 == some name with
    | [] => return none :: rest
    | [member] => return some member.2 :: rest
    | _ => none

/-- The fields of a definition with the given field names: from a record by name, skipping unknown
names, or from a list by position. -/
def fields? (names : List String) : Document → Option (List (Option Document))
  | .record members =>
    if members.any fun member => member.1.isNone then none else members? members names
  | .list items =>
    if names.length < items.length then none
    else some (items.map some ++ List.replicate (names.length - items.length) none)
  | _ => none

def bool? : Document → Option Bool
  | .bool value => some value
  | _ => none

def text? : Document → Option String
  | .text content => content
  | _ => none

/-- The items of a list, each read by `read?`. -/
def listOf? {α : Type} (read? : Document → Option α) : Document → Option (List α)
  | .list items => items.mapM read?
  | _ => none

/-- A dictionary whose entries are read by `read?`; of a repeated name the last entry counts, but
each has to be readable. -/
def dictionaryOf? {α : Type} (read? : Document → Option α) : Document → Option (Dictionary.Ordered α)
  | .record members => do
    let entries ← members.mapM fun member => do
      let name ← member.1
      let value ← read? member.2
      return (name, value)
    return .ofList entries
  | _ => none

/-- A name out of a fixed set: the text itself, or a record of the name alone holding null. -/
def nameOf? : Document → Option String
  | .text content => content
  | .record [(name, .null)] => name
  | _ => none

/-- An optional field: absent and null are the same. -/
def optional? {α : Type} (read? : Document → Option α) : Option Document → Option (Option α)
  | none | some .null => some none
  | some document => (read? document).map some

/-- A field with a value of its own when it is absent; null is no value. -/
def defaulted? {α : Type} (read? : Document → Option α) (default : α) : Option Document → Option α
  | none => some default
  | some document => read? document

end Document

end RecordMapper
