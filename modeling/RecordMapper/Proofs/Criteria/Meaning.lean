import RecordMapper.Criteria.Selection
import RecordMapper.Proofs.Criteria.Fields
import RecordMapper.Proofs.Json.Equality

/-! # What raw criteria mean

Raw criteria can be read directly, without a model and without a plan: `RawCriteria.satisfied` says
which records satisfy a raw clause, and `RawCriteria.found` which records of a list raw criteria
find. Criteria that were read from raw ones mean the same.
-/

namespace RecordMapper

open Results

namespace RawCriteria

/-! ## The meaning of a clause -/

/-- Whether a value passes a modifier with its operand. -/
def passes (value : Json) (modifier : String) (operand : Json) : Bool :=
  match modifier, operand with
  | "in", .list items => items.any fun item => item.same value
  | "nin", .list items => !items.any fun item => item.same value
  | "!=", other => !value.same other
  | "<", bound => value.order? bound == some .lt
  | "<=", bound => value.order? bound == some .lt || value.order? bound == some .eq
  | ">", bound => value.order? bound == some .gt
  | ">=", bound => value.order? bound == some .gt || value.order? bound == some .eq
  | "contains", .text part => Test.lowered holdsPart part value
  | "startsWith", .text start => Test.lowered List.isPrefixOf start value
  | "endsWith", .text ending => Test.lowered List.isSuffixOf ending value
  | "like", .text pattern => Test.lowered Wildcard.accepts pattern value
  | _, _ => false

/-- Whether a value is what an attribute has to be: one of a list, what passes every modifier, or an
operand itself. -/
def meets (value : Json) : Json → Bool
  | .list items => items.any fun item => item.same value
  | .record modifiers => modifiers.all fun modifier => passes value modifier.1 modifier.2
  | operand => value.same operand

mutual

/-- Whether a record satisfies a raw clause. -/
def satisfied (record : Record) : Json → Bool
  | .record entries => satisfiedEntries record entries
  | _ => false

/-- Whether a record satisfies every entry of a raw clause. -/
def satisfiedEntries (record : Record) : List (String × Json) → Bool
  | [] => true
  | (name, value) :: rest =>
    (if name = "and" then
      match value with
      | .list branches => satisfiedEvery record branches
      | _ => false
    else if name = "or" then
      match value with
      | .list branches => satisfiedSome record branches
      | _ => false
    else meets (Record.read record name) value) && satisfiedEntries record rest

/-- Whether a record satisfies every one of a list of raw clauses. -/
def satisfiedEvery (record : Record) : List Json → Bool
  | [] => true
  | branch :: rest => satisfied record branch && satisfiedEvery record rest

/-- Whether a record satisfies at least one of a list of raw clauses. -/
def satisfiedSome (record : Record) : List Json → Bool
  | [] => false
  | branch :: rest => satisfied record branch || satisfiedSome record rest

end

/-! ## The meaning of the other parts -/

/-- How many records are left out at the start. -/
def skip (raw : Option Json) : Nat :=
  ((part raw "skip").bind Json.nat?).getD 0

/-- The most records to keep. -/
def limit (raw : Option Json) : Option Nat :=
  (part raw "limit").bind Json.nat?

/-- The direction that a word writes. -/
def direction (word : String) : Direction :=
  if word.toUpper = "DESC" then .descending else .ascending

/-- The sort terms of one item: a text of a name and perhaps a direction, or a dictionary of
both. -/
def itemTerms : Json → List SortTerm
  | .text term =>
    match Text.words term with
    | [name] => [⟨name, .ascending⟩]
    | [name, word] => [⟨name, direction word⟩]
    | _ => []
  | .record [(name, .text word)] => [⟨name, direction word⟩]
  | _ => []

/-- The sort terms of one item or of a list of them, the first one first. -/
def terms : Json → List SortTerm
  | .list items => items.flatMap itemTerms
  | item => itemTerms item

/-- The sort terms of raw criteria. -/
def sortTerms (raw : Option Json) : List SortTerm :=
  ((part raw "sort").map terms).getD []

/-- Whether a list of names has a name. -/
def lists (names : Json) (name : String) : Bool :=
  match names with
  | .list items => items.any fun item => item.text? == some name
  | _ => false

/-- Whether an attribute is shown: it is selected or the key or everything is, and it is not
omitted. -/
def shows (primaryKey : String) (raw : Option Json) (name : String) : Bool :=
  (match part raw "select" with
    | some names => lists names "*" || lists names name || name == primaryKey
    | none => true) &&
  match part raw "omit" with
  | some names => !lists names name
  | none => true

/-- The records that raw criteria select from a list: those that satisfy the clause, in the order of
the sort terms, without those that are skipped and those beyond the limit. -/
def selected (primaryKey : String) (raw : Option Json) (records : List Record) : List Record :=
  takeUpTo (limit raw)
    ((SortTerm.arrange (sortTerms raw)
      (records.filter fun record => satisfied record (clause primaryKey raw))).drop (skip raw))

/-- What raw criteria find in a list of records: those that they select, with the attributes that
are shown. -/
def found (primaryKey : String) (raw : Option Json) (records : List Record) : List Record :=
  (selected primaryKey raw records).map fun record => record.filter fun entry => shows primaryKey raw entry.1

end RawCriteria

namespace Clause

open RawCriteria

theorem readOperands_eq_ok {name : String} {declared : Attribute} {items operands : List Json}
    (done : readOperands name declared items = .ok operands) : operands = items := by
  have same : operands.map id = items.map id := by
    refine map_eq_of_mapM (fun item _ operand step => ?_) done
    unfold readOperand at step
    split at step
    · exact (Except.ok.inj step).symm
    · cases step
  simpa using same

theorem readModifier_passes {name modifier : String} {declared : Attribute} {operand : Json}
    {test : Test} (done : readModifier name declared modifier operand = .ok test) (value : Json) :
    test.passes value = passes value modifier operand := by
  unfold readModifier at done
  dsimp only at done
  split at done
  case h_1 | h_2 =>
    split at done
    · obtain ⟨operands, read, rfl⟩ := map_eq_ok.mp done
      rw [readOperands_eq_ok read]
      rfl
    · cases done
  case h_3 | h_4 | h_5 | h_6 =>
    split at done
    · obtain rfl := Except.ok.inj done
      rfl
    · cases done
  case h_7 =>
    obtain ⟨other, read, rfl⟩ := map_eq_ok.mp done
    unfold readOperand at read
    split at read
    · obtain rfl := Except.ok.inj read
      rfl
    · cases read
  case h_8 | h_9 | h_10 | h_11 =>
    split at done
    · obtain rfl := Except.ok.inj done
      rfl
    · cases done
  case h_12 => cases done

theorem acceptsEvery_eq_all (record : Record) (parts : List Clause) :
    acceptsEvery record parts = parts.all fun part => accepts record part := by
  induction parts with
  | nil => rfl
  | cons part rest ih => rw [acceptsEvery, List.all_cons, ih]

theorem readConstraint_accepts {model : Model} {name : String} {value : Json} {parts : List Clause}
    (done : readConstraint model name value = .ok parts) (record : Record) :
    acceptsEvery record parts = meets (Record.read record name) value := by
  unfold readConstraint at done
  obtain ⟨declared, -, done⟩ := bind_eq_ok.mp done
  split at done
  · obtain ⟨operands, read, done⟩ := bind_eq_ok.mp done
    obtain rfl := pure_eq_ok.mp done
    rw [readOperands_eq_ok read]
    exact Bool.and_true _
  · cases done
  · next modifiers _ _ =>
    have same : parts.map (fun part => accepts record part) =
        modifiers.map fun modifier => passes (Record.read record name) modifier.1 modifier.2 := by
      refine map_eq_of_mapM (fun modifier _ part step => ?_) done
      obtain ⟨test, read, leaf⟩ := bind_eq_ok.mp step
      obtain rfl := pure_eq_ok.mp leaf
      rw [accepts]
      exact readModifier_passes read _
    have all := congrArg (fun answers => answers.all id) same
    rw [List.all_map, List.all_map] at all
    rw [acceptsEvery_eq_all]
    exact all
  · next notList notEmpty notRecord =>
    obtain ⟨operand, read, done⟩ := bind_eq_ok.mp done
    obtain rfl := pure_eq_ok.mp done
    unfold readOperand at read
    split at read
    · obtain rfl := Except.ok.inj read
      rw [acceptsEvery, acceptsEvery, accepts, Bool.and_true]
      cases value with
      | list items => exact absurd rfl (notList items)
      | record modifiers => exact absurd rfl (notRecord modifiers)
      | _ => rfl
    · cases read

mutual

/-- A clause that was read matches the records that satisfy what it was read from. -/
theorem read_accepts {model : Model} {raw : Json} {clause : Clause}
    (done : read model raw = .ok clause) (record : Record) :
    accepts record clause = satisfied record raw := by
  cases raw with
  | record entries =>
    obtain ⟨parts, found, rfl⟩ := map_eq_ok.mp (by simpa only [read] using done)
    rw [accepts_collapse_and, satisfied]
    exact readEntries_accepts found record
  | _ => cases done

theorem readEntries_accepts {model : Model} {entries : List (String × Json)} {parts : List Clause}
    (done : readEntries model entries = .ok parts) (record : Record) :
    acceptsEvery record parts = satisfiedEntries record entries := by
  cases entries with
  | nil =>
    obtain rfl := Except.ok.inj done
    rfl
  | cons entry rest =>
    obtain ⟨name, value⟩ := entry
    have nested {branches : List Json} {branchParts : List Clause} (isList : value = .list branches)
        (read : readBranches model branches = .ok branchParts) :
        acceptsEvery record branchParts = satisfiedEvery record branches ∧
          acceptsSome record branchParts = satisfiedSome record branches := by
      cases value with
      | list items =>
        obtain rfl := Json.list.inj isList
        exact readBranches_accepts read record
      | _ => cases isList
    obtain ⟨first, others, rfl, there, here⟩ := readEntries_cons_eq_ok done
    rw [acceptsEvery_append, satisfiedEntries.eq_def, readEntries_accepts there record]
    congr 1
    rcases here with ⟨branches, branchParts, rfl, read, connective⟩ | ⟨notAnd, notOr, read⟩
    · rcases connective with ⟨rfl, rfl⟩ | ⟨rfl, rfl⟩
      · rw [acceptsEvery, acceptsEvery, accepts, Bool.and_true, (nested rfl read).1, if_pos rfl]
      · rw [acceptsEvery, acceptsEvery, accepts, Bool.and_true, (nested rfl read).2,
          if_neg (by decide), if_pos rfl]
    · rw [if_neg notAnd, if_neg notOr]
      exact readConstraint_accepts read record

theorem readBranches_accepts {model : Model} {branches : List Json} {parts : List Clause}
    (done : readBranches model branches = .ok parts) (record : Record) :
    acceptsEvery record parts = satisfiedEvery record branches ∧
      acceptsSome record parts = satisfiedSome record branches := by
  cases branches with
  | nil =>
    obtain rfl := Except.ok.inj done
    exact ⟨rfl, rfl⟩
  | cons branch rest =>
    simp only [readBranches] at done
    obtain ⟨part, here, done⟩ := bind_eq_ok.mp done
    obtain ⟨others, there, done⟩ := bind_eq_ok.mp done
    obtain rfl := pure_eq_ok.mp done
    obtain ⟨every, some⟩ := readBranches_accepts there record
    rw [acceptsEvery, acceptsSome, satisfiedEvery, satisfiedSome, read_accepts here record, every, some]
    exact ⟨rfl, rfl⟩

end

end Clause

open RawCriteria

namespace SortTerm

theorem direction?_eq_some {word : String} {direction : Direction}
    (found : direction? word = some direction) :
    RawCriteria.direction word = direction := by
  unfold direction? at found
  unfold RawCriteria.direction
  split at found
  · next upper => rw [← Option.some.inj found, if_neg (by rw [upper]; decide)]
  · next upper => rw [← Option.some.inj found, if_pos upper]
  · cases found

theorem ofWords_eq_ok {model : Model} {name word : String} {term : SortTerm}
    (done : ofWords model name word = .ok term) : term = ⟨name, RawCriteria.direction word⟩ := by
  unfold ofWords at done
  obtain ⟨declared, -, done⟩ := bind_eq_ok.mp done
  split at done
  · next found =>
    rw [direction?_eq_some found]
    exact (pure_eq_ok.mp done).symm
  · cases done

theorem readItem_eq_ok {model : Model} {raw : Json} {terms : List SortTerm}
    (done : readItem model raw = .ok terms) :
    terms = itemTerms raw := by
  have single {name word : String} (done : (ofWords model name word).map ([·]) = .ok terms) :
      terms = [⟨name, RawCriteria.direction word⟩] := by
    obtain ⟨term, read, rfl⟩ := map_eq_ok.mp done
    rw [ofWords_eq_ok read]
  unfold readItem at done
  unfold itemTerms
  split at done
  · split at done
    · next words =>
      have ascending : RawCriteria.direction "ASC" = .ascending := by decide +kernel
      simp only [words, ← ascending]
      exact single done
    · next words =>
      simp only [words]
      exact single done
    · cases done
  · exact (Except.ok.inj done).symm
  · exact single done
  all_goals cases done

theorem read_eq_ok {model : Model} {raw : Json} {terms : List SortTerm}
    (done : read model raw = .ok terms) :
    terms = RawCriteria.terms raw := by
  unfold read at done
  split at done
  · next items =>
    obtain ⟨lists, read, done⟩ := bind_eq_ok.mp done
    obtain rfl := pure_eq_ok.mp done
    have same : lists.map id = items.map itemTerms := by
      refine map_eq_of_mapM (fun item _ terms step => ?_) read
      split at step
      · cases step
      · exact readItem_eq_ok step
    rw [RawCriteria.terms, List.flatMap_def, ← same, List.map_id]
  · next notList =>
    cases raw with
    | list items => exact absurd rfl (notList items)
    | _ => exact readItem_eq_ok done

end SortTerm

namespace Criteria

theorem readCount_eq_ok {key : String} {raw : Json} {count : Nat}
    (done : readCount key raw = .ok count) :
    raw.nat? = some count := by
  unfold readCount at done
  split at done
  · next found => rw [found, Except.ok.inj done]
  · cases done

theorem mem_readNames {key : String} {raw : Json} {names : List String}
    (done : readNames key raw = .ok names) (name : String) :
    name ∈ names ↔ lists raw name = true := by
  unfold readNames at done
  split at done
  · next items =>
    obtain ⟨texts, read, done⟩ := bind_eq_ok.mp done
    obtain rfl := pure_eq_ok.mp done
    rw [List.mem_eraseDups, mem_mapM_iff read, lists, List.any_eq_true]
    refine exists_congr fun item => and_congr_right fun _ => ?_
    cases item <;> simp [Json.text?]
  · cases done

/-- Whether a selection shows a field. -/
def selects (selection : Option (List String)) (name : String) : Bool :=
  match selection with
  | some names => names.contains name
  | none => true

/-- Whether criteria show a field: it is selected and not omitted. -/
def shows (criteria : Criteria) (name : String) : Bool :=
  selects criteria.selection name && !criteria.omission.contains name

theorem readSelection_eq_ok {model : Model} {raw : Json} {selection : Option (List String)}
    (done : readSelection model raw = .ok selection) (name : String) :
    selects selection name = (lists raw "*" || lists raw name || name == model.primaryKey) := by
  unfold readSelection at done
  obtain ⟨names, read, done⟩ := bind_eq_ok.mp done
  have member (name : String) : lists raw name = names.contains name := by
    rw [Bool.eq_iff_iff, ← mem_readNames read, List.contains_iff_mem]
  simp only [member]
  split at done
  · next star =>
    split at done
    · cases done
    · obtain rfl := pure_eq_ok.mp done
      rw [star]
      rfl
  · next noStar =>
    obtain ⟨⟨⟩, -, done⟩ := bind_eq_ok.mp done
    obtain rfl := pure_eq_ok.mp done
    rw [Bool.eq_false_iff.mpr noStar, Bool.false_or, selects]
    split
    · next key =>
      by_cases same : name = model.primaryKey
      · rw [same, key]
        rfl
      · simp [same]
    · rw [List.contains_cons, Bool.or_comm]

theorem mem_readOmission {model : Model} {raw : Json} {omission : List String}
    (done : readOmission model raw = .ok omission) (name : String) :
    name ∈ omission ↔ lists raw name = true := by
  unfold readOmission at done
  obtain ⟨names, read, done⟩ := bind_eq_ok.mp done
  obtain ⟨⟨⟩, -, done⟩ := bind_eq_ok.mp done
  obtain rfl := pure_eq_ok.mp done
  exact mem_readNames read name

/-- The key cannot be omitted. -/
theorem primaryKey_notMem_omission {model : Model} {raw : Json} {omission : List String}
    (done : readOmission model raw = .ok omission) : lists raw model.primaryKey = false := by
  rw [Bool.eq_false_iff, ne_eq, ← mem_readOmission done]
  unfold readOmission at done
  obtain ⟨names, read, done⟩ := bind_eq_ok.mp done
  obtain ⟨⟨⟩, checked, done⟩ := bind_eq_ok.mp done
  obtain rfl := pure_eq_ok.mp done
  intro member
  obtain ⟨_, -, passed⟩ := bind_eq_ok.mp (forM_eq_ok.mp checked _ member)
  rw [if_pos rfl] at passed
  cases passed

namespace ReadFrom

variable {model : Model} {raw : Option Json} {criteria : Criteria}

theorem accepts_eq (parts : criteria.ReadFrom model raw) (record : Record) :
    criteria.clause.accepts record = satisfied record (RawCriteria.clause model.primaryKey raw) := by
  obtain ⟨written, read, simplified⟩ := parts.clause
  have same := Clause.accepts_simplify record written
  rw [simplified, Clause.read_accepts read] at same
  exact same

theorem skip_eq (parts : criteria.ReadFrom model raw) : criteria.skip = RawCriteria.skip raw := by
  have read := parts.skip
  unfold readKey at read
  rw [RawCriteria.skip, part]
  cases given : Dictionary.get? (entries raw) "skip" with
  | none =>
    rw [given] at read
    exact (Except.ok.inj read).symm
  | some count =>
    rw [given] at read
    rw [Option.bind_some, readCount_eq_ok read, Option.getD_some]

theorem limit_eq (parts : criteria.ReadFrom model raw) :
    criteria.limit = RawCriteria.limit raw := by
  have read := parts.limit
  unfold readKey at read
  rw [RawCriteria.limit, part]
  cases given : Dictionary.get? (entries raw) "limit" with
  | none =>
    rw [given] at read
    exact (Except.ok.inj read).symm
  | some limit =>
    rw [given] at read
    obtain ⟨count, counted, same⟩ := map_eq_ok.mp read
    rw [← same, Option.bind_some, readCount_eq_ok counted]

theorem sort_eq (parts : criteria.ReadFrom model raw) : criteria.sort = sortTerms raw := by
  have read := parts.sort
  unfold readKey at read
  rw [sortTerms, part]
  cases given : Dictionary.get? (entries raw) "sort" with
  | none =>
    rw [given] at read
    exact (Except.ok.inj read).symm
  | some terms =>
    rw [given] at read
    rw [SortTerm.read_eq_ok read]
    rfl

/-- Criteria select what the raw criteria that they were read from select. -/
theorem select_eq (parts : criteria.ReadFrom model raw) (records : List Record) :
    criteria.select records = selected model.primaryKey raw records := by
  unfold select selected
  rw [parts.limit_eq, parts.sort_eq, parts.skip_eq]
  simp only [parts.accepts_eq]

/-- Criteria show the attributes that the raw criteria that they were read from show. -/
theorem shows_eq (parts : criteria.ReadFrom model raw) (name : String) :
    criteria.shows name = RawCriteria.shows model.primaryKey raw name := by
  have selection := parts.selection
  have omission := parts.omission
  unfold readKey at selection omission
  rw [shows, RawCriteria.shows, part, part]
  congr 1
  · cases given : Dictionary.get? (entries raw) "select" with
    | none =>
      rw [given] at selection
      rw [← Except.ok.inj selection]
      rfl
    | some names =>
      rw [given] at selection
      exact readSelection_eq_ok selection name
  · cases given : Dictionary.get? (entries raw) "omit" with
    | none =>
      rw [given] at omission
      rw [← Except.ok.inj omission]
      rfl
    | some names =>
      rw [given] at omission
      dsimp only
      congr 1
      rw [Bool.eq_iff_iff, List.contains_iff_mem]
      exact mem_readOmission omission name

/-- Criteria show the key. -/
theorem shows_primaryKey (parts : criteria.ReadFrom model raw) : criteria.shows model.primaryKey = true := by
  have omission := parts.omission
  unfold readKey at omission
  rw [parts.shows_eq, RawCriteria.shows, part, part]
  cases omitted : Dictionary.get? (entries raw) "omit" with
  | none => cases Dictionary.get? (entries raw) "select" <;> simp
  | some names =>
    rw [omitted] at omission
    cases selected : Dictionary.get? (entries raw) "select" <;> simp [primaryKey_notMem_omission omission]

/-- A selection and an omission exclude each other. -/
theorem selection_or_omission (parts : criteria.ReadFrom model raw) :
    criteria.selection = none ∨ criteria.omission = [] := by
  refine parts.choice.imp id fun absent => ?_
  have omission := parts.omission
  unfold readKey at omission
  rw [part] at absent
  rw [absent] at omission
  exact (Except.ok.inj omission).symm

end ReadFrom

/-- A clause without a simple form is satisfied by no record. -/
theorem satisfied_of_simplify_eq_none {model : Model} {raw : Json} {written : Clause}
    (clauseRead : Clause.read model raw = .ok written) (never : written.simplify = none) (record : Record) :
    satisfied record raw = false := by
  have same := Clause.accepts_simplify record written
  rw [never, Clause.read_accepts clauseRead] at same
  exact same.symm

/-- Criteria that ask for nothing, of a method that takes no limit, have a clause that no record
satisfies. -/
theorem satisfied_of_noop {model : Model} {method : Method} (unpaged : method.allowsPaging = false)
    {raw : Option Json} {details : String} (noop : read model method raw = .error (.noop details))
    (record : Record) : satisfied record (RawCriteria.clause model.primaryKey raw) = false := by
  rcases read_eq_noop noop with ⟨written, clauseRead, never⟩ | ⟨paged, -⟩
  · exact satisfied_of_simplify_eq_none clauseRead never record
  · rw [unpaged] at paged
    cases paged

/-- Criteria that ask for nothing were read from raw criteria that select nothing. -/
theorem selected_of_noop {model : Model} {method : Method} {raw : Option Json} {details : String}
    (noop : read model method raw = .error (.noop details)) (records : List Record) :
    selected model.primaryKey raw records = [] := by
  unfold selected
  rcases read_eq_noop noop with ⟨written, clauseRead, never⟩ | ⟨-, zero⟩
  · have nothing : (records.filter fun record =>
        satisfied record (RawCriteria.clause model.primaryKey raw)) = [] := by
      apply List.filter_eq_nil_iff.mpr
      intro record _
      rw [satisfied_of_simplify_eq_none clauseRead never record]
      exact Bool.false_ne_true
    rw [nothing, SortTerm.arrange, List.mergeSort_nil, List.drop_nil]
    cases RawCriteria.limit raw with
    | none => rfl
    | some limit => exact List.take_nil
  · have limit : RawCriteria.limit raw = some 0 := by
      unfold readKey at zero
      rw [RawCriteria.limit, part]
      cases given : Dictionary.get? (entries raw) "limit" with
      | none =>
        rw [given] at zero
        cases zero
      | some count =>
        rw [given] at zero
        obtain ⟨_, counted, same⟩ := map_eq_ok.mp zero
        rw [Option.bind_some, readCount_eq_ok counted, same]
    rw [limit, takeUpTo, List.take_zero]

end Criteria

end RecordMapper
