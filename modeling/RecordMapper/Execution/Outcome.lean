import RecordMapper.Execution.Fault
import RecordMapper.Query.Meta
import RecordMapper.Query.Method

/-! # Outcomes

What an operation that succeeds answers with. Its method and options decide the kind: `Outcome.noop` is
the empty outcome of that kind, and `Outcome.ofReply` takes a reply only if it is of that kind.
-/

namespace RecordMapper

/-- The result of an operation. -/
inductive Outcome where
  /-- A mutation whose records were not fetched, or a stream that ended. -/
  | nothing
  | records (records : List Record)
  | count (value : Nat)
  | number (value : Double)
deriving Inhabited

namespace Outcome

/-- The outcome of an operation that affects no record. -/
def noop (method : Method) (options : Meta) : Outcome :=
  match method with
  | .create | .createEach | .update | .destroy => if options.fetch then .records [] else .nothing
  | .find => .records []
  | .count => .count 0
  | .sum | .avg => .number (.zero false)
  | .stream => .nothing

/-- The records of an outcome that has some. -/
def records? : Outcome → Option (List Record)
  | .records found => some found
  | _ => none

/-- The count of an outcome that is one. -/
def count? : Outcome → Option Nat
  | .count value => some value
  | _ => none

/-- The number of an outcome that is one. -/
def number? : Outcome → Option Double
  | .number value => some value
  | _ => none

/-- The rows in a list of values, the first of which has the given place. -/
def rowsFrom (index : Nat) : List Json → Except Breach (List Record)
  | [] => .ok []
  | .record row :: rest => (rowsFrom (index + 1) rest).map (row :: ·)
  | value :: _ => .error (.notRow index value)

/-- The rows that a reply consists of. -/
def rows : Option Json → Except Breach (List Record)
  | some (.list items) => rowsFrom 0 items
  | reply => .error (.notRows reply)

/-- Whether a reply to a mutation that was to answer with nothing holds something all the same. -/
def isUnrequested : Option Json → Bool
  | none | some .null | some (.list []) => false
  | some _ => true

/-- What a reply stands for as the answer to a method. What nobody asked for is dropped. -/
def ofReply (method : Method) (options : Meta) (reply : Option Json) : Except Breach Outcome :=
  match method with
  | .create =>
    if options.fetch then do
      let rows ← rows reply
      if rows.length = 1 then return .records rows else throw (.notOneRow rows.length)
    else .ok .nothing
  | .createEach | .update | .destroy =>
    if options.fetch then (rows reply).map .records else .ok .nothing
  | .find | .stream => (rows reply).map .records
  | .count =>
    match reply.bind Json.nat? with
    | some value => .ok (.count value)
    | none => .error (.notCount reply)
  | .sum | .avg =>
    match reply.bind Json.double? with
    | some value => .ok (.number value)
    | none => .error (.notNumber reply)

end Outcome

end RecordMapper
