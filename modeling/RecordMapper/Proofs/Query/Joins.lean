import RecordMapper.Proofs.Query.Lowering

/-! # Joins

A singular association is joined by its own column and the key of its model, a plural one by the key
of its owner and the column that refers back. `LogicalQuery.Joined` has one constructor for each of
the two, and every join that is made is made in one of these ways.
-/

namespace RecordMapper

open Results

/-- The attribute that the join of an association reads: the key for a plural one, else its own. -/
def Model.joinAttribute (model : Model) (name : String) : String :=
  match model.kind? name with
  | some (.collection _ _) => model.primaryKey
  | _ => name

namespace LogicalQuery

variable {σ : Type} {registry : Registry σ} {parent : RegisteredModel σ}

/-- How the join of an association comes about. -/
inductive Joined (registry : Registry σ) (parent : RegisteredModel σ) (name : String) :
    Option Criteria → Join → Prop where
  /-- The association holds the key of one record. -/
  | singular {given : Option Criteria} {target parentKey childKey : String} {child : RegisteredModel σ}
      (kind : parent.model.kind? name = some (.model target))
      (found : registry.model? target = some child)
      (holds : parent.columns.column name = .ok parentKey)
      (key : child.columns.column child.model.primaryKey = .ok childKey) :
      Joined registry parent name given
        { field := name, parentKey, childTable := child.model.table, childKey
          childModel := child.identity, collection := false, criteria := some {} }
  /-- The records of the association hold the key of their owner. -/
  | plural {target via parentKey childKey : String} {child : RegisteredModel σ} {criteria renamed : Criteria}
      (kind : parent.model.kind? name = some (.collection target (some via)))
      (found : registry.model? target = some child)
      (key : parent.columns.column parent.model.primaryKey = .ok parentKey)
      (refers : child.columns.column via = .ok childKey)
      (lowered : (showing via criteria).rename child.columns.column = .ok renamed) :
      Joined registry parent name (some criteria)
        { field := name, parentKey, childTable := child.model.table, childKey
          childModel := child.identity, collection := true, criteria := some renamed }
  /-- No record of the association is meant. -/
  | never {target via parentKey childKey : String} {child : RegisteredModel σ}
      (kind : parent.model.kind? name = some (.collection target (some via)))
      (found : registry.model? target = some child)
      (key : parent.columns.column parent.model.primaryKey = .ok parentKey)
      (refers : child.columns.column via = .ok childKey) :
      Joined registry parent name none
        { field := name, parentKey, childTable := child.model.table, childKey
          childModel := child.identity, collection := true, criteria := none }

/-- An association is embedded under its name. -/
theorem Joined.field_eq {name : String} {given : Option Criteria} {join : Join}
    (joined : Joined registry parent name given join) : join.field = name := by
  cases joined <;> rfl

/-- The join reads the column of the attribute that it is to read. -/
theorem Joined.parentKey_eq {name : String} {given : Option Criteria} {join : Join}
    (joined : Joined registry parent name given join) :
    parent.columns.column (parent.model.joinAttribute name) = .ok join.parentKey := by
  cases joined with
  | singular kind found holds => rw [Model.joinAttribute, kind]; exact holds
  | plural kind found key => rw [Model.joinAttribute, kind]; exact key
  | never kind found key => rw [Model.joinAttribute, kind]; exact key

theorem target_eq_ok {identity : String} {child : RegisteredModel σ} :
    target registry identity = .ok child ↔ registry.model? identity = some child := by
  unfold target
  split
  · next found => rw [found, Except.ok.injEq, Option.some.injEq]
  · next missing => rw [missing]; simp

/-- Every join is made in one of these ways. -/
theorem joined_of_join {name : String} {given : Option Criteria} {joined : Join}
    (done : join registry parent (name, given) = .ok joined) :
    Joined registry parent name given joined := by
  unfold join at done
  dsimp only at done
  split at done
  case h_2 => cases done
  next declared isDeclared =>
  obtain ⟨_, same, done⟩ := bind_eq_ok.mp done
  obtain rfl := Except.ok.inj same
  have kind : parent.model.kind? name = some declared.kind := by
    rw [Model.kind?, isDeclared, Option.map_some]
  obtain ⟨parentKey, isKey, done⟩ := bind_eq_ok.mp done
  split at done
  · next identity isModel =>
    obtain ⟨child, isTarget, done⟩ := bind_eq_ok.mp done
    obtain ⟨holder, holds, done⟩ := bind_eq_ok.mp done
    obtain ⟨childKey, isChildKey, done⟩ := bind_eq_ok.mp done
    obtain rfl := pure_eq_ok.mp done
    exact .singular (isModel ▸ kind) (target_eq_ok.mp isTarget) holds isChildKey
  · next identity via isCollection =>
    obtain ⟨child, isTarget, done⟩ := bind_eq_ok.mp done
    have found := target_eq_ok.mp isTarget
    cases via with
    | none => cases done
    | some via =>
      rw [isCollection] at kind
      obtain ⟨_, same, done⟩ := bind_eq_ok.mp done
      obtain rfl := Except.ok.inj same
      obtain ⟨childKey, refers, done⟩ := bind_eq_ok.mp done
      cases given with
      | none =>
        obtain ⟨_, same, done⟩ := bind_eq_ok.mp done
        obtain rfl := Except.ok.inj same
        obtain rfl := pure_eq_ok.mp done
        exact .never kind found isKey refers
      | some wanted =>
        obtain ⟨_, shown, done⟩ := bind_eq_ok.mp done
        obtain ⟨renamed, lowered, rfl⟩ := map_eq_ok.mp shown
        obtain rfl := pure_eq_ok.mp done
        exact .plural kind found isKey refers lowered
  · cases done

/-- The model of an association that may be embedded is the one that its kind names, and of the same
datastore. -/
theorem associated_child {model child : Model} {name target : String} {subcriteria : Option Json}
    {registered : RegisteredModel σ}
    (isAssociated : Description.associated registry model name subcriteria = .ok child)
    (kind : model.kind? name = some (.model target) ∨ ∃ via, model.kind? name = some (.collection target via))
    (found : registry.model? target = some registered) :
    registered.model = child ∧ registered.datastore = model.datastore := by
  obtain ⟨other, another, isKind, isFound, isChild, together⟩ := Description.associated_eq_ok isAssociated
  obtain rfl : target = other := by
    rcases kind with kind | ⟨_, kind⟩ <;> rcases isKind with isKind | ⟨_, isKind⟩ <;> simp_all
  obtain rfl := Option.some.inj (found.symm.trans isFound)
  exact ⟨isChild, together⟩

/-- The joins of compiled associations lead to tables of models of the same datastore. -/
theorem joins_together {query : Description σ} {populates : Dictionary (Option Criteria)}
    (done : query.compilePopulates registry parent.model = .ok populates) {joins : List Join}
    (joined : populates.mapM (join registry parent) = .ok joins) :
    ∀ join ∈ joins, ∃ identity child, registry.model? identity = some child ∧
      child.datastore = parent.datastore ∧ join.childTable = child.model.table := by
  intro join member
  obtain ⟨⟨name, given⟩, isPopulate, step⟩ := (mem_mapM_iff joined).mp member
  unfold Description.compilePopulates at done
  split at done
  · obtain ⟨entry, -, compiled⟩ := (mem_mapM_iff done).mp isPopulate
    obtain ⟨isName, child, isAssociated, -⟩ := Description.compilePopulate_eq_ok compiled
    rw [← isName] at isAssociated
    cases joined_of_join step with
    | singular kind found => exact ⟨_, _, found, (associated_child isAssociated (.inl kind) found).2, rfl⟩
    | plural kind found => exact ⟨_, _, found, (associated_child isAssociated (.inr ⟨_, kind⟩) found).2, rfl⟩
    | never kind found => exact ⟨_, _, found, (associated_child isAssociated (.inr ⟨_, kind⟩) found).2, rfl⟩
  · obtain rfl := Except.ok.inj done
    cases isPopulate

end LogicalQuery

end RecordMapper
