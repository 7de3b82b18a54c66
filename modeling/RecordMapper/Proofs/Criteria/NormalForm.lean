import RecordMapper.Proofs.Criteria.Simplification

/-! # The normal form of clauses

What `Clause.simplify` answers with is in normal form, and a clause in normal form is simplified to
itself. In a normal form nothing is decided in advance: it is true as soon as every test is passed, and
unless it is the clause that matches everything, it is false when every test is failed. Hence a clause
has no simple form exactly if it is false even when every test that can be passed is, and its simple
form is the clause that matches everything exactly if it is true even when every test that can be failed
is.
-/

namespace RecordMapper

/-- No test is decided both ways. -/
theorem Test.alwaysPasses_of_neverPasses {test : Test} (never : test.neverPasses = true) :
    test.alwaysPasses = false := by
  unfold neverPasses at never
  split at never
  · rfl
  · cases never

/-- Whether the test of a predicate can be passed: it is not the membership of nothing. -/
def Predicate.canPass (predicate : Predicate) : Bool :=
  !predicate.test.neverPasses

/-- Whether the test of a predicate is always passed: it is that of being none of nothing. -/
def Predicate.mustPass (predicate : Predicate) : Bool :=
  predicate.test.alwaysPasses

namespace Clause

theorem decided_canPass : Decided Predicate.canPass where
  never predicate never := by rw [Predicate.canPass, never, Bool.not_true]
  always predicate always := by
    rw [Predicate.canPass, Bool.not_eq_true', Bool.eq_false_iff]
    intro never
    cases always.symm.trans (Test.alwaysPasses_of_neverPasses never)

theorem decided_mustPass : Decided Predicate.mustPass where
  never _ never := Test.alwaysPasses_of_neverPasses never
  always _ always := always

/-- Whether a clause is a conjunction. -/
def isConjunction : Clause → Bool
  | .and _ => true
  | _ => false

/-- A clause in normal form. -/
inductive Normal : Clause → Prop where
  /-- The test of a predicate is not decided in advance. -/
  | leaf {predicate : Predicate} (canPass : predicate.test.neverPasses = false)
      (canFail : predicate.test.alwaysPasses = false) : Normal (.leaf predicate)
  /-- A conjunction does not have a single part, and none that is a conjunction. -/
  | and {parts : List Clause} (notSingle : parts.length ≠ 1)
      (flat : ∀ part ∈ parts, part.isConjunction = false) (normal : ∀ part ∈ parts, Normal part) :
      Normal (.and parts)
  /-- A disjunction has several parts, and none that matches everything. -/
  | or {parts : List Clause} (several : 1 < parts.length) (restricts : ∀ part ∈ parts, part.isEverything = false)
      (normal : ∀ part ∈ parts, Normal part) : Normal (.or parts)

/-! ## Simple form is normal -/

theorem normal_everything : Normal everything :=
  .and (by simp) (by simp) (by simp)

/-- A normal form brings parts into a conjunction that are normal and no conjunctions. -/
theorem Normal.conjuncts {clause : Clause} (normal : clause.Normal) :
    ∀ part ∈ clause.conjuncts, part.isConjunction = false ∧ part.Normal := by
  cases normal with
  | leaf canPass canFail => exact List.forall_mem_singleton.mpr ⟨rfl, .leaf canPass canFail⟩
  | and notSingle flat normal => exact fun part member => ⟨flat part member, normal part member⟩
  | or several restricts normal => exact List.forall_mem_singleton.mpr ⟨rfl, .or several restricts normal⟩

theorem normal_collapse_and {parts : List Clause}
    (each : ∀ part ∈ parts, part.isConjunction = false ∧ part.Normal) : (collapse .and parts).Normal := by
  unfold collapse
  split
  · next only => exact (each only (List.mem_singleton_self only)).2
  · next notSingle =>
    refine .and (fun single => ?_) (fun part member => (each part member).1) fun part member => (each part member).2
    obtain ⟨only, rfl⟩ := List.length_eq_one_iff.mp single
    exact notSingle only rfl

theorem normal_collapse_or {parts : List Clause} (nonempty : parts ≠ [])
    (restricts : ∀ part ∈ parts, part.isEverything = false) (normal : ∀ part ∈ parts, part.Normal) :
    (collapse .or parts).Normal := by
  unfold collapse
  split
  · next only => exact normal only (List.mem_singleton_self only)
  · next notSingle =>
    refine .or ?_ restricts normal
    have notEmpty := List.length_pos_iff.mpr nonempty
    have notOne : parts.length ≠ 1 := fun single => by
      obtain ⟨only, rfl⟩ := List.length_eq_one_iff.mp single
      exact notSingle only rfl
    omega

mutual

theorem normal_simplify {clause simple : Clause} (done : clause.simplify = some simple) : simple.Normal := by
  cases clause with
  | and parts =>
    obtain ⟨kept, isKept, rfl⟩ := Option.map_eq_some_iff.mp (by simpa only [simplify] using done)
    exact normal_collapse_and (normal_simplifyEvery isKept)
  | or parts =>
    simp only [simplify] at done
    split at done
    · obtain rfl := Option.some.inj done
      exact normal_everything
    · next restricts =>
      split at done
      · cases done
      · next nonempty =>
        obtain rfl := Option.some.inj done
        refine normal_collapse_or (fun none => nonempty (List.isEmpty_iff.mpr none)) (fun part member => ?_)
          (normal_simplifySome parts)
        exact Bool.eq_false_iff.mpr fun isAll => restricts (List.any_eq_true.mpr ⟨part, member, isAll⟩)
  | leaf predicate =>
    simp only [simplify] at done
    split at done
    · cases done
    · next canPass =>
      split at done
      · obtain rfl := Option.some.inj done
        exact normal_everything
      · next canFail =>
        obtain rfl := Option.some.inj done
        exact .leaf (Bool.eq_false_iff.mpr canPass) (Bool.eq_false_iff.mpr canFail)

theorem normal_simplifyEvery {parts kept : List Clause} (done : simplifyEvery parts = some kept) :
    ∀ part ∈ kept, part.isConjunction = false ∧ part.Normal := by
  cases parts with
  | nil =>
    obtain rfl := Option.some.inj done
    exact nofun
  | cons part rest =>
    simp only [simplifyEvery, bind, Option.bind_eq_some_iff] at done
    obtain ⟨first, here, others, there, whole⟩ := done
    obtain rfl := Option.some.inj whole
    exact List.forall_mem_append.mpr ⟨(normal_simplify here).conjuncts, normal_simplifyEvery there⟩

theorem normal_simplifySome (parts : List Clause) : ∀ part ∈ simplifySome parts, part.Normal := by
  cases parts with
  | nil => exact nofun
  | cons part rest =>
    simp only [simplifySome]
    split
    · exact normal_simplifySome rest
    · next first here => exact List.forall_mem_cons.mpr ⟨normal_simplify here, normal_simplifySome rest⟩

end

/-! ## A normal form is its own simple form -/

theorem simplifyEvery_of_flat {parts : List Clause} (flat : ∀ part ∈ parts, part.isConjunction = false)
    (same : ∀ part ∈ parts, part.simplify = some part) : simplifyEvery parts = some parts := by
  induction parts with
  | nil => rfl
  | cons part rest ih =>
    obtain ⟨notAnd, flatRest⟩ := List.forall_mem_cons.mp flat
    obtain ⟨here, later⟩ := List.forall_mem_cons.mp same
    have alone : part.conjuncts = [part] := by
      cases part with
      | and parts => cases notAnd
      | or parts => rfl
      | leaf predicate => rfl
    rw [simplifyEvery, here, ih flatRest later]
    exact congrArg (fun conjuncts => some (conjuncts ++ rest)) alone

theorem simplifySome_of_same {parts : List Clause} (same : ∀ part ∈ parts, part.simplify = some part) :
    simplifySome parts = parts := by
  induction parts with
  | nil => rfl
  | cons part rest ih =>
    obtain ⟨here, later⟩ := List.forall_mem_cons.mp same
    rw [simplifySome, here, ih later]

theorem collapse_of_length_ne_one {connective : List Clause → Clause} {parts : List Clause}
    (notSingle : parts.length ≠ 1) : collapse connective parts = connective parts := by
  unfold collapse
  split
  · exact absurd rfl notSingle
  · rfl

theorem Normal.simplify_eq {clause : Clause} (normal : clause.Normal) : clause.simplify = some clause := by
  induction normal with
  | leaf canPass canFail => rw [simplify, canPass, canFail, if_neg Bool.false_ne_true, if_neg Bool.false_ne_true]
  | and notSingle flat _ same =>
    rw [simplify, simplifyEvery_of_flat flat same, Option.map_some, collapse_of_length_ne_one notSingle]
  | @or parts several restricts _ same =>
    have noneAll : parts.any isEverything = false := by
      rw [List.any_eq_false]
      exact fun part member => Bool.eq_false_iff.mp (restricts part member)
    have nonempty : parts.isEmpty = false := by
      rw [List.isEmpty_eq_false_iff, ← List.length_pos_iff]
      omega
    simp only [simplify, simplifySome_of_same same, noneAll, nonempty, Bool.false_eq_true, if_false]
    rw [collapse_of_length_ne_one (by omega)]

/-! ## Nothing in a normal form is decided in advance -/

theorem Normal.holds_canPass {clause : Clause} (normal : clause.Normal) : clause.holds Predicate.canPass = true := by
  induction normal with
  | leaf canPass => rw [holds, Predicate.canPass, canPass, Bool.not_false]
  | and _ _ _ true =>
    rw [holds, holdsEvery_eq_all, List.all_eq_true]
    exact true
  | or several _ _ true =>
    obtain ⟨part, member⟩ := List.exists_mem_of_length_pos (Nat.zero_lt_of_lt several)
    rw [holds, holdsSome_eq_any, List.any_eq_true]
    exact ⟨part, member, true part member⟩

theorem Normal.eq_everything {clause : Clause} (normal : clause.Normal)
    (holds : clause.holds Predicate.mustPass = true) : clause = everything := by
  induction normal with
  | leaf _ canFail => cases canFail.symm.trans holds
  | @and parts _ flat _ same =>
    rw [Clause.holds, holdsEvery_eq_all, List.all_eq_true] at holds
    -- a part that is true would be a conjunction in a conjunction
    cases parts with
    | nil => rfl
    | cons part rest =>
      have here := List.mem_cons_self (a := part) (l := rest)
      have notAnd := flat part here
      rw [same part here (holds part here)] at notAnd
      cases notAnd
  | or _ restricts _ same =>
    rw [Clause.holds, holdsSome_eq_any, List.any_eq_true] at holds
    obtain ⟨part, member, true⟩ := holds
    have notAll := restricts part member
    rw [same part member true] at notAll
    cases notAll

/-! ## Simplification -/

/-- Simplification preserves meaning, is exact and is canonical. A clause without simple form matches no
record, and a simple form the same records as the clause. There is no simple form exactly if the clause is
false when every test is passed but the memberships of nothing, and the simple form is the clause that
matches everything exactly if the clause is true when every test is failed but those of being none of
nothing. And a simple form is a normal form, which is its own simple form. -/
theorem simplify_exact (clause : Clause) :
    (clause.simplify = none → ∀ record, clause.accepts record = false) ∧
    (∀ simple, clause.simplify = some simple → ∀ record, simple.accepts record = clause.accepts record) ∧
    (clause.simplify = none ↔ clause.holds Predicate.canPass = false) ∧
    (clause.simplify = some everything ↔ clause.holds Predicate.mustPass = true) ∧
    ∀ simple, clause.simplify = some simple → simple.Normal ∧ simple.simplify = some simple := by
  have meaning (record : Record) := accepts_simplify record clause
  have hopeful := holds_simplify decided_canPass clause
  have doubtful := holds_simplify decided_mustPass clause
  cases done : clause.simplify with
  | none =>
    rw [done] at meaning hopeful doubtful
    refine ⟨fun _ record => (meaning record).symm, nofun, iff_of_true rfl hopeful.symm, ?_, nofun⟩
    exact iff_of_false nofun fun true => Bool.false_ne_true (doubtful.trans true)
  | some simple =>
    have normal := normal_simplify done
    rw [done] at meaning hopeful doubtful
    rw [Option.any_some] at hopeful doubtful
    rw [← hopeful, ← doubtful, normal.holds_canPass]
    refine ⟨nofun, ?_, iff_of_false nofun nofun, ?_, ?_⟩
    · rintro _ ⟨⟩
      exact meaning
    · rw [Option.some.injEq]
      exact ⟨fun isAll => isAll ▸ rfl, normal.eq_everything⟩
    · rintro _ ⟨⟩
      exact ⟨normal, normal.simplify_eq⟩

/-- What cannot match, what always does and what stands alone are left out at every level. -/
example (value : Json) :
    simplify (.or [.leaf ⟨"id", .among []⟩,
      .and [.and [.leaf ⟨"id", .equals value⟩, .leaf ⟨"id", .notAmong []⟩], everything]]) =
        some (.leaf ⟨"id", .equals value⟩) :=
  rfl

end Clause

end RecordMapper
