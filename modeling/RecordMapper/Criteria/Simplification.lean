import RecordMapper.Criteria.Basic

/-! # Simplified clauses

`Clause.simplify` drops what cannot change the meaning of a clause and answers `none` when the clause
is certain to match no record. Only memberships of an empty list are decided in advance. The result
has no such membership, no nested conjunction, no conjunction or disjunction of a single part, and no
disjunction that holds of everything.
-/

namespace RecordMapper

namespace Clause

/-- A list of parts under a connective, except that a single part stands for itself. -/
def collapse (connective : List Clause → Clause) : List Clause → Clause
  | [only] => only
  | parts => connective parts

/-- The parts that a clause brings into a conjunction around it. -/
def conjuncts : Clause → List Clause
  | .and parts => parts
  | other => [other]

mutual

/-- An equivalent clause in simple form, or `none` if no record can match. -/
def simplify : Clause → Option Clause
  | .leaf predicate =>
    if predicate.test.neverPasses then none
    else if predicate.test.alwaysPasses then some everything
    else some (.leaf predicate)
  | .and parts => (simplifyEvery parts).map (collapse .and)
  | .or parts =>
    let kept := simplifySome parts
    if kept.any isEverything then some everything
    else if kept.isEmpty then none
    else some (collapse .or kept)

/-- The parts of a conjunction in simple form, or `none` if one of them cannot match. -/
def simplifyEvery : List Clause → Option (List Clause)
  | [] => some []
  | part :: rest => do
    let part ← simplify part
    let rest ← simplifyEvery rest
    return conjuncts part ++ rest

/-- The parts of a disjunction in simple form, without those that cannot match. -/
def simplifySome : List Clause → List Clause
  | [] => []
  | part :: rest =>
    match simplify part with
    | none => simplifySome rest
    | some part => part :: simplifySome rest

end

end Clause

end RecordMapper
