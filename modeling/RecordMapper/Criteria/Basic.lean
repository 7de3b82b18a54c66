import RecordMapper.Json.Basic

/-! # Criteria

A criteria says which records are meant: a `Clause` that they match, an order, how many to skip and
keep, and which fields to show. The same structures carry attribute names before a query is lowered
to columns and column names after; `Criteria.rename` takes the one to the other.
-/

namespace RecordMapper

/-- What a predicate asks of the value of its field. -/
inductive Test where
  | equals (value : Json)
  | differs (value : Json)
  | among (values : List Json)
  | notAmong (values : List Json)
  | above (bound : Json)
  | atLeast (bound : Json)
  | below (bound : Json)
  | atMost (bound : Json)
  | contains (part : String)
  | startsWith (start : String)
  | endsWith (ending : String)
  | like (pattern : String)
deriving Inhabited

namespace Test

/-- The modifier that writes the test in criteria; equality has none and is called `eq`. -/
def name : Test → String
  | .equals _ => "eq"
  | .differs _ => "!="
  | .among _ => "in"
  | .notAmong _ => "nin"
  | .above _ => ">"
  | .atLeast _ => ">="
  | .below _ => "<"
  | .atMost _ => "<="
  | .contains _ => "contains"
  | .startsWith _ => "startsWith"
  | .endsWith _ => "endsWith"
  | .like _ => "like"

/-- A test that no value passes, whatever it is: membership of nothing. -/
def neverPasses : Test → Bool
  | .among [] => true
  | _ => false

/-- A test that every value passes: being none of nothing. -/
def alwaysPasses : Test → Bool
  | .notAmong [] => true
  | _ => false

end Test

/-- A test on the value of one field. -/
structure Predicate where
  field : String
  test : Test
deriving Inhabited

/-- A Boolean combination of predicates. -/
inductive Clause where
  /-- Every part matches. -/
  | and (parts : List Clause)
  /-- Some part matches. -/
  | or (parts : List Clause)
  | leaf (predicate : Predicate)
deriving Inhabited

namespace Clause

/-- The clause that matches every record. -/
def everything : Clause := .and []

/-- Whether the clause is written as the one that matches every record. -/
def isEverything : Clause → Bool
  | .and [] => true
  | _ => false

mutual

/-- The predicates of a clause from left to right. -/
def predicates : Clause → List Predicate
  | .and parts => predicatesOfParts parts
  | .or parts => predicatesOfParts parts
  | .leaf predicate => [predicate]

/-- The predicates of a list of clauses from left to right. -/
def predicatesOfParts : List Clause → List Predicate
  | [] => []
  | part :: rest => predicates part ++ predicatesOfParts rest

end

mutual

/-- The clause with every field renamed; the first field that cannot be renamed fails it. -/
def rename {ε : Type} (name : String → Except ε String) : Clause → Except ε Clause
  | .and parts => (renameParts name parts).map .and
  | .or parts => (renameParts name parts).map .or
  | .leaf predicate => (name predicate.field).map fun field => .leaf { predicate with field }

/-- A list of clauses with every field renamed. -/
def renameParts {ε : Type} (name : String → Except ε String) : List Clause → Except ε (List Clause)
  | [] => .ok []
  | part :: rest => do
    let part ← rename name part
    let rest ← renameParts name rest
    return part :: rest

end

end Clause

/-- The direction of a sort. -/
inductive Direction where
  | ascending
  | descending
deriving DecidableEq, Repr, Inhabited

/-- The word that writes a direction. -/
def Direction.word : Direction → String
  | .ascending => "ASC"
  | .descending => "DESC"

/-- A field to sort by. -/
structure SortTerm where
  field : String
  direction : Direction
deriving DecidableEq, Repr, Inhabited

/-- Which records are meant, in which order, and what of them is shown. -/
structure Criteria where
  /-- The clause that the records match. -/
  clause : Clause := .everything
  /-- The most records to keep; without a limit all. -/
  limit : Option Nat := none
  /-- How many records to leave out at the start. -/
  skip : Nat := 0
  /-- The order, the first term first. -/
  sort : List SortTerm := []
  /-- The fields to show; without a selection all. -/
  selection : Option (List String) := none
  /-- The fields to leave out. -/
  omission : List String := []
deriving Inhabited

namespace Criteria

/-- The criteria with every field renamed. The clause is renamed first, then the sort terms, the
selection and the omission, and the first field that cannot be renamed fails it. -/
def rename {ε : Type} (name : String → Except ε String) (criteria : Criteria) : Except ε Criteria := do
  let clause ← criteria.clause.rename name
  let sort ← criteria.sort.mapM fun term => (name term.field).map fun field => { term with field }
  let selection ←
    match criteria.selection with
    | some fields => (fields.mapM name).map some
    | none => .ok none
  let omission ← criteria.omission.mapM name
  return { criteria with clause, sort, selection, omission }

end Criteria

end RecordMapper
