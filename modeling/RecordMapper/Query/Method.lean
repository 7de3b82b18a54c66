/-! # Methods

Every query has one method. The method decides which parts a query must have, which it may not have,
and which entry point of an adapter answers it.
-/

namespace RecordMapper

/-- What a query does. -/
inductive Method where
  | create
  | createEach
  | update
  | destroy
  | find
  | count
  | sum
  | avg
  | stream
deriving DecidableEq, Repr, Inhabited

namespace Method

/-- Every method, in the order of their declaration. -/
def all : List Method :=
  [.create, .createEach, .update, .destroy, .find, .count, .sum, .avg, .stream]

/-- The name of a method. -/
def name : Method → String
  | .create => "create"
  | .createEach => "createEach"
  | .update => "update"
  | .destroy => "destroy"
  | .find => "find"
  | .count => "count"
  | .sum => "sum"
  | .avg => "avg"
  | .stream => "stream"

/-- The method of a name. -/
def ofName? (name : String) : Option Method :=
  all.find? fun method => method.name == name

/-- Whether the method changes what a datastore holds. -/
def isMutation : Method → Bool
  | .create | .createEach | .update | .destroy => true
  | _ => false

/-- Whether the method works on the records that match a criteria. -/
def takesCriteria : Method → Bool
  | .create | .createEach => false
  | _ => true

/-- Whether the method writes given values over records. -/
def takesValues : Method → Bool
  | .update => true
  | _ => false

/-- Whether the method adds records. -/
def takesRecords : Method → Bool
  | .create | .createEach => true
  | _ => false

/-- Whether the method may embed associated records. -/
def takesPopulates : Method → Bool
  | .find | .stream => true
  | _ => false

/-- Whether the method aggregates over a numeric attribute. -/
def takesNumericAttribute : Method → Bool
  | .sum | .avg => true
  | _ => false

/-- Whether the criteria may choose attributes. -/
def allowsProjection : Method → Bool
  | .find | .stream => true
  | _ => false

/-- Whether the criteria may skip, limit and sort. -/
def allowsPaging : Method → Bool
  | .find | .stream | .count | .sum | .avg => true
  | _ => false

theorem ofName?_name (method : Method) : ofName? method.name = some method := by
  cases method <;> decide

end Method

end RecordMapper
