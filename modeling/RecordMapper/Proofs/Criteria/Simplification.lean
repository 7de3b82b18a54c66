import RecordMapper.Criteria.Matching
import RecordMapper.Criteria.Simplification

/-! # What simple form keeps

The simple form of a clause names no field that the clause does not name, and it is as true as the
clause under every valuation of the predicates that has the tests decided in advance the way they are
decided. So the same records match it, and a clause without simple form matches no record.
-/

namespace RecordMapper.Clause

/-! ## Predicates -/

theorem predicates_collapse (connective : List Clause → Clause)
    (same : ∀ parts, (connective parts).predicates = predicatesOfParts parts) (parts : List Clause) :
    (collapse connective parts).predicates = predicatesOfParts parts := by
  unfold collapse
  split
  · simp only [predicatesOfParts, List.append_nil]
  · exact same _

theorem predicatesOfParts_append (parts others : List Clause) :
    predicatesOfParts (parts ++ others) = predicatesOfParts parts ++ predicatesOfParts others := by
  induction parts with
  | nil => rfl
  | cons part rest ih => simp only [List.cons_append, predicatesOfParts, ih, List.append_assoc]

theorem predicatesOfParts_conjuncts (clause : Clause) :
    predicatesOfParts clause.conjuncts = clause.predicates := by
  cases clause <;> simp [conjuncts, predicates, predicatesOfParts]

mutual

/-- Simple form names no field that was not there. -/
theorem predicates_simplify {clause simple : Clause} (done : clause.simplify = some simple) :
    ∀ predicate ∈ simple.predicates, predicate ∈ clause.predicates := by
  cases clause with
  | and parts =>
    obtain ⟨kept, kept_eq, rfl⟩ := Option.map_eq_some_iff.mp (by simpa only [simplify] using done)
    rw [predicates_collapse .and (fun _ => rfl)]
    exact predicates_simplifyEvery kept_eq
  | or parts =>
    simp only [simplify] at done
    split at done
    · obtain rfl := Option.some.inj done
      simp [everything, predicates, predicatesOfParts]
    · split at done
      · cases done
      · obtain rfl := Option.some.inj done
        rw [predicates_collapse .or (fun _ => rfl)]
        exact predicates_simplifySome parts
  | leaf predicate =>
    simp only [simplify] at done
    split at done
    · cases done
    · split at done
      · obtain rfl := Option.some.inj done
        simp [everything, predicates, predicatesOfParts]
      · obtain rfl := Option.some.inj done
        exact fun _ member => member

theorem predicates_simplifyEvery {parts kept : List Clause} (done : simplifyEvery parts = some kept) :
    ∀ predicate ∈ predicatesOfParts kept, predicate ∈ predicatesOfParts parts := by
  cases parts with
  | nil =>
    obtain rfl := Option.some.inj done
    exact fun _ member => member
  | cons part rest =>
    simp only [simplifyEvery, bind, Option.bind_eq_some_iff] at done
    obtain ⟨first, here, others, there, whole⟩ := done
    obtain rfl := Option.some.inj whole
    intro predicate member
    rw [predicatesOfParts_append, predicatesOfParts_conjuncts, List.mem_append] at member
    rw [predicatesOfParts, List.mem_append]
    exact member.imp (predicates_simplify here predicate) (predicates_simplifyEvery there predicate)

theorem predicates_simplifySome (parts : List Clause) :
    ∀ predicate ∈ predicatesOfParts (simplifySome parts), predicate ∈ predicatesOfParts parts := by
  cases parts with
  | nil => exact fun _ member => member
  | cons part rest =>
    intro predicate member
    simp only [simplifySome] at member
    rw [predicatesOfParts, List.mem_append]
    split at member
    · exact .inr (predicates_simplifySome rest predicate member)
    · next first here =>
      rw [predicatesOfParts, List.mem_append] at member
      exact member.imp (predicates_simplify here predicate) (predicates_simplifySome rest predicate)

end

/-! ## Truth -/

mutual

/-- Whether a clause is true when a valuation says which predicates are. -/
def holds (valuation : Predicate → Bool) : Clause → Bool
  | .and parts => holdsEvery valuation parts
  | .or parts => holdsSome valuation parts
  | .leaf predicate => valuation predicate

/-- Whether every one of a list of clauses is true. -/
def holdsEvery (valuation : Predicate → Bool) : List Clause → Bool
  | [] => true
  | part :: rest => holds valuation part && holdsEvery valuation rest

/-- Whether at least one of a list of clauses is true. -/
def holdsSome (valuation : Predicate → Bool) : List Clause → Bool
  | [] => false
  | part :: rest => holds valuation part || holdsSome valuation rest

end

/-- Whether a valuation has the tests that are decided in advance the way they are decided. -/
structure Decided (valuation : Predicate → Bool) : Prop where
  never : ∀ predicate, predicate.test.neverPasses = true → valuation predicate = false
  always : ∀ predicate, predicate.test.alwaysPasses = true → valuation predicate = true

section

variable (valuation : Predicate → Bool)

theorem holdsEvery_eq_all (parts : List Clause) : holdsEvery valuation parts = parts.all (holds valuation) := by
  induction parts with
  | nil => rfl
  | cons part rest ih => rw [holdsEvery, List.all_cons, ih]

theorem holdsSome_eq_any (parts : List Clause) : holdsSome valuation parts = parts.any (holds valuation) := by
  induction parts with
  | nil => rfl
  | cons part rest ih => rw [holdsSome, List.any_cons, ih]

theorem holds_collapse_and (parts : List Clause) :
    holds valuation (collapse .and parts) = holdsEvery valuation parts := by
  unfold collapse
  split
  · simp only [holdsEvery, Bool.and_true]
  · rw [holds]

theorem holds_collapse_or (parts : List Clause) :
    holds valuation (collapse .or parts) = holdsSome valuation parts := by
  unfold collapse
  split
  · simp only [holdsSome, Bool.or_false]
  · rw [holds]

theorem holdsEvery_conjuncts (clause : Clause) : holdsEvery valuation clause.conjuncts = holds valuation clause := by
  cases clause with
  | and parts => rw [conjuncts, holds]
  | or parts => simp only [conjuncts, holdsEvery, Bool.and_true]
  | leaf predicate => simp only [conjuncts, holdsEvery, Bool.and_true]

theorem isEverything_iff {clause : Clause} : clause.isEverything = true ↔ clause = everything := by
  unfold isEverything
  split
  · exact iff_of_true rfl rfl
  · next other => exact iff_of_false nofun fun same => other same

theorem holdsSome_of_isEverything {parts : List Clause} (member : parts.any isEverything = true) :
    holdsSome valuation parts = true := by
  obtain ⟨part, isPart, isAll⟩ := List.any_eq_true.mp member
  rw [holdsSome_eq_any]
  exact List.any_eq_true.mpr ⟨part, isPart, isEverything_iff.mp isAll ▸ rfl⟩

end

mutual

/-- Simple form changes nothing about the truth of a clause, and a clause without simple form is false. -/
theorem holds_simplify {valuation : Predicate → Bool} (decided : Decided valuation) (clause : Clause) :
    clause.simplify.any (holds valuation) = holds valuation clause := by
  cases clause with
  | and parts =>
    rw [holds, ← holdsEvery_simplifyEvery decided parts, simplify]
    cases simplifyEvery parts with
    | none => rfl
    | some kept => exact holds_collapse_and valuation kept
  | or parts =>
    rw [holds, ← holdsSome_simplifySome decided parts, simplify]
    split
    · next everything => exact (holdsSome_of_isEverything valuation everything).symm
    · split
      · next none =>
        rw [List.isEmpty_iff.mp none]
        rfl
      · exact holds_collapse_or valuation _
  | leaf predicate =>
    rw [holds, simplify]
    split
    · next never => exact (decided.never predicate never).symm
    · split
      · next always => exact (decided.always predicate always).symm
      · rfl

theorem holdsEvery_simplifyEvery {valuation : Predicate → Bool} (decided : Decided valuation)
    (parts : List Clause) :
    (simplifyEvery parts).any (holdsEvery valuation) = holdsEvery valuation parts := by
  cases parts with
  | nil => rfl
  | cons part rest =>
    rw [holdsEvery, ← holds_simplify decided part, ← holdsEvery_simplifyEvery decided rest, simplifyEvery]
    cases part.simplify with
    | none => rfl
    | some first =>
      cases simplifyEvery rest with
      | none => exact (Bool.and_false _).symm
      | some others =>
        change holdsEvery valuation (first.conjuncts ++ others) = _
        rw [holdsEvery_eq_all, List.all_append, ← holdsEvery_eq_all, ← holdsEvery_eq_all, holdsEvery_conjuncts]
        rfl

theorem holdsSome_simplifySome {valuation : Predicate → Bool} (decided : Decided valuation)
    (parts : List Clause) :
    holdsSome valuation (simplifySome parts) = holdsSome valuation parts := by
  cases parts with
  | nil => rfl
  | cons part rest =>
    rw [holdsSome, ← holds_simplify decided part, ← holdsSome_simplifySome decided rest, simplifySome]
    cases part.simplify with
    | none => exact (Bool.false_or _).symm
    | some first => rw [holdsSome]; rfl

end

/-! ## Matching -/

section

variable (record : Record)

mutual

/-- A record matches a clause when the clause is true of the predicates that accept the record. -/
theorem accepts_eq_holds (clause : Clause) : accepts record clause = holds (·.accepts record) clause := by
  cases clause with
  | and parts => rw [accepts, holds, acceptsEvery_eq_holdsEvery]
  | or parts => rw [accepts, holds, acceptsSome_eq_holdsSome]
  | leaf predicate => rw [accepts, holds]

theorem acceptsEvery_eq_holdsEvery (parts : List Clause) :
    acceptsEvery record parts = holdsEvery (·.accepts record) parts := by
  cases parts with
  | nil => rfl
  | cons part rest => rw [acceptsEvery, holdsEvery, accepts_eq_holds part, acceptsEvery_eq_holdsEvery rest]

theorem acceptsSome_eq_holdsSome (parts : List Clause) :
    acceptsSome record parts = holdsSome (·.accepts record) parts := by
  cases parts with
  | nil => rfl
  | cons part rest => rw [acceptsSome, holdsSome, accepts_eq_holds part, acceptsSome_eq_holdsSome rest]

end

/-- Nothing is a member of nothing, and everything is none of nothing. -/
theorem decided_accepts : Decided (·.accepts record) := by
  constructor
  · intro predicate never
    rw [Predicate.accepts]
    unfold Test.neverPasses at never
    split at never
    · next test => rw [test]; rfl
    · cases never
  · intro predicate always
    rw [Predicate.accepts]
    unfold Test.alwaysPasses at always
    split at always
    · next test => rw [test]; rfl
    · cases always

theorem acceptsEvery_append (parts others : List Clause) :
    acceptsEvery record (parts ++ others) = (acceptsEvery record parts && acceptsEvery record others) := by
  simp only [acceptsEvery_eq_holdsEvery, holdsEvery_eq_all, List.all_append]

theorem accepts_collapse_and (parts : List Clause) :
    accepts record (collapse .and parts) = acceptsEvery record parts := by
  rw [accepts_eq_holds, holds_collapse_and, acceptsEvery_eq_holdsEvery]

theorem acceptsEvery_conjuncts (clause : Clause) :
    acceptsEvery record clause.conjuncts = accepts record clause := by
  rw [acceptsEvery_eq_holdsEvery, holdsEvery_conjuncts, accepts_eq_holds]

/-- Whether a record matches a clause that may have no simple form. -/
def matchesSimple (record : Record) : Option Clause → Bool
  | some simple => accepts record simple
  | none => false

/-- Simple form changes nothing about which records match. -/
theorem accepts_simplify (clause : Clause) : matchesSimple record clause.simplify = accepts record clause := by
  rw [accepts_eq_holds, ← holds_simplify (decided_accepts record)]
  cases clause.simplify with
  | none => rfl
  | some simple => exact accepts_eq_holds record simple

end

end RecordMapper.Clause
