import Mathlib
import RecordMapper.Criteria.Sorting

/-! # Records in order

Any two values can be compared, missing ones and values of different kinds included: the order of values is that of
their kinds, and within a kind that of a linear order. So it is a total preorder, and so is the order by a list of
terms. Arranging records puts each of two records first that the first term to tell them apart puts first, and leaves
records that no term tells apart as they stood.
-/

namespace RecordMapper

open Std

namespace Json

/-- The content of a boolean. -/
def bool? : Json → Option Bool
  | .bool value => some value
  | _ => none

/-- The value of the double nearest to a number. -/
def units? (value : Json) : Option Int :=
  value.double?.map Double.units

/-- Values are ordered by their kinds, and values of one kind by what they hold. -/
theorem sortOrder_eq : sortOrder =
    compareLex (compareOn kindRank)
      (compareLex (compareOn bool?) (compareLex (compareOn units?) (compareOn text?))) := by
  funext first second
  cases first <;> cases second
  case bool.bool | number.number => exact Ordering.then_eq.symm
  -- values of different kinds are told apart by their kinds, all others do not differ
  all_goals rfl

instance : TransCmp sortOrder := by
  rw [sortOrder_eq]
  infer_instance

instance : TransCmp sortOrder? where
  eq_swap {first second} := by
    cases first with
    | none => cases second <;> rfl
    | some value =>
      cases second with
      | none => rfl
      | some other => exact @OrientedCmp.eq_swap _ sortOrder _ value other
  isLE_trans {first second third} := by
    intro below above
    cases first with
    | none => cases third <;> rfl
    | some value =>
      cases second with
      | none => cases below
      | some middle =>
        cases third with
        | none => cases above
        | some other => exact @TransCmp.isLE_trans _ sortOrder _ value middle other below above

end Json

namespace SortTerm

variable {term : SortTerm} {terms : List SortTerm} {first second : Record}

/-- The order of what two records hold under the field of a term. -/
def fieldOrder (term : SortTerm) (first second : Record) : Ordering :=
  Json.sortOrder? (Dictionary.get? first term.field) (Dictionary.get? second term.field)

/-- A term does not tell two records apart. -/
def Ties (term : SortTerm) (first second : Record) : Prop :=
  term.fieldOrder first second = .eq

instance (term : SortTerm) (first second : Record) : Decidable (term.Ties first second) :=
  inferInstanceAs (Decidable (_ = _))

/-- A term puts one record before another: the one with the smaller value, or if it descends the one with the larger
value. -/
def PutsFirst (term : SortTerm) (first second : Record) : Prop :=
  term.fieldOrder first second =
    match term.direction with
    | .ascending => .lt
    | .descending => .gt

theorem order_eq_eq_iff : term.order first second = .eq ↔ term.Ties first second := by
  change term.direction.apply (term.fieldOrder first second) = .eq ↔ term.fieldOrder first second = .eq
  cases term.direction <;> cases term.fieldOrder first second <;> decide

theorem order_eq_lt_iff : term.order first second = .lt ↔ term.PutsFirst first second := by
  unfold PutsFirst
  change term.direction.apply (term.fieldOrder first second) = .lt ↔ _
  cases term.direction <;> cases term.fieldOrder first second <;> decide

instance (term : SortTerm) : TransCmp term.fieldOrder where
  eq_swap {_ _} := @OrientedCmp.eq_swap _ Json.sortOrder? _ _ _
  isLE_trans {_ _ _} := @TransCmp.isLE_trans _ Json.sortOrder? _ _ _ _

/-- The order by a term is the order of what the records hold, or the opposite one. -/
theorem order_eq (term : SortTerm) :
    term.order = match term.direction with
      | .ascending => term.fieldOrder
      | .descending => fun first second => term.fieldOrder second first := by
  funext first second
  change term.direction.apply (term.fieldOrder first second) = _
  cases term.direction with
  | ascending => rfl
  | descending => exact (@OrientedCmp.eq_swap _ term.fieldOrder _ second first).symm

instance (term : SortTerm) : TransCmp term.order := by
  rw [order_eq]
  cases term.direction with
  | ascending => exact inferInstanceAs (TransCmp term.fieldOrder)
  | descending => exact TransCmp.opposite

instance (terms : List SortTerm) : TransCmp (orderBy terms) := by
  induction terms with
  | nil => exact { eq_swap := rfl, isLE_trans := fun _ _ => rfl }
  | cons term rest ih => exact inferInstanceAs (TransCmp (compareLex term.order (orderBy rest)))

/-- Records that tie by every term of a list. -/
def TieBy (terms : List SortTerm) (first second : Record) : Prop :=
  ∀ term ∈ terms, term.Ties first second

instance (terms : List SortTerm) (first second : Record) : Decidable (TieBy terms first second) :=
  inferInstanceAs (Decidable (∀ _ ∈ _, _))

theorem tieBy_cons : TieBy (term :: terms) first second ↔ term.Ties first second ∧ TieBy terms first second :=
  List.forall_mem_cons

/-- Of two records that some term tells apart, the first one is put first by the first such term. -/
def Leads (terms : List SortTerm) (first second : Record) : Prop :=
  ∃ before term after, terms = before ++ term :: after ∧ TieBy before first second ∧ term.PutsFirst first second

theorem orderBy_eq_eq_iff : orderBy terms first second = .eq ↔ TieBy terms first second := by
  induction terms with
  | nil => exact iff_of_true rfl nofun
  | cons term rest ih =>
    rw [orderBy, Ordering.then_eq_eq, order_eq_eq_iff, ih, tieBy_cons]

theorem orderBy_eq_lt_iff : orderBy terms first second = .lt ↔ Leads terms first second := by
  induction terms with
  | nil =>
    refine iff_of_false (by simp [orderBy]) ?_
    rintro ⟨before, term, after, split, -⟩
    simp at split
  | cons term rest ih =>
    rw [orderBy, Ordering.then_eq_lt, order_eq_lt_iff, order_eq_eq_iff, ih]
    constructor
    · rintro (puts | ⟨ties, before, other, after, rfl, tie, puts⟩)
      · exact ⟨[], term, rest, rfl, nofun, puts⟩
      · exact ⟨term :: before, other, after, rfl, tieBy_cons.mpr ⟨ties, tie⟩, puts⟩
    · rintro ⟨before, other, after, split, tie, puts⟩
      cases before with
      | nil =>
        obtain ⟨rfl, rfl⟩ := List.cons.inj split
        exact .inl puts
      | cons head before =>
        obtain ⟨rfl, rfl⟩ := List.cons.inj split
        obtain ⟨ties, tie⟩ := tieBy_cons.mp tie
        exact .inr ⟨ties, before, other, after, rfl, tie, puts⟩

theorem tieBy_singleton : TieBy [term] first second ↔ term.Ties first second :=
  List.forall_mem_singleton

theorem leads_singleton : Leads [term] first second ↔ term.PutsFirst first second := by
  rw [← orderBy_eq_lt_iff, ← order_eq_lt_iff, orderBy, Ordering.then_eq_lt]
  simp [orderBy]

theorem isLE_total {α : Type} (compare : α → α → Ordering) [OrientedCmp compare] (first second : α) :
    (compare first second).isLE = true ∨ (compare second first).isLE = true := by
  rw [@OrientedCmp.eq_swap _ compare _ second first]
  cases compare first second <;> decide

/-- A sort by a comparison leaves the items that compare equal to a given one in the order they had. -/
theorem filter_mergeSort {α : Type} (compare : α → α → Ordering) [TransCmp compare] (items : List α) (item : α) :
    (items.mergeSort fun first second => (compare first second).isLE).filter (compare item · == .eq) =
      items.filter (compare item · == .eq) := by
  have ordered : (items.filter (compare item · == .eq)).Pairwise fun first second =>
      (compare first second).isLE = true := by
    refine List.pairwise_filter.mpr (List.pairwise_of_forall fun first second isFirst isSecond => ?_)
    rw [← TransCmp.congr_left (beq_iff_eq.mp isFirst), beq_iff_eq.mp isSecond]
    rfl
  -- the equal items are sorted as they are, so the sort keeps them as a sublist, and there are no others
  have kept := (List.sublist_mergeSort (fun _ _ _ => TransCmp.isLE_trans)
    (fun _ _ => Bool.or_eq_true_iff.mpr (isLE_total compare ..)) ordered
    List.filter_sublist).filter (compare item · == .eq)
  simp only [List.filter_filter, Bool.and_self] at kept
  refine (kept.eq_of_length ?_).symm
  exact ((List.mergeSort_perm items _).filter _).length_eq.symm

/-- Of two arranged records the first one leads, unless they tie. -/
theorem pairwise_arrange (terms : List SortTerm) (records : List Record) :
    (arrange terms records).Pairwise fun first second => TieBy terms first second ∨ Leads terms first second := by
  have sorted : (arrange terms records).Pairwise fun first second => (orderBy terms first second).isLE = true :=
    List.pairwise_mergeSort (fun _ _ _ => TransCmp.isLE_trans)
      (fun _ _ => Bool.or_eq_true_iff.mpr (isLE_total ..)) records
  refine sorted.imp fun {first second} below => ?_
  rw [← orderBy_eq_eq_iff, ← orderBy_eq_lt_iff]
  revert below
  cases orderBy terms first second <;> decide

/-- Arranging leaves the records that tie with a given one in the order they had. -/
theorem filter_arrange (terms : List SortTerm) (records : List Record) (record : Record) :
    (arrange terms records).filter (TieBy terms record ·) = records.filter (TieBy terms record ·) := by
  have same : (fun other => decide (TieBy terms record other)) = fun other => orderBy terms record other == .eq := by
    funext other
    rw [Bool.eq_iff_iff, decide_eq_true_iff, beq_iff_eq, orderBy_eq_eq_iff]
  rw [same]
  exact filter_mergeSort (orderBy terms) records record

/-- What holds of any two tied records in the order they had still holds of them when they are arranged. -/
theorem pairwise_arrange_iff {relation : Record → Record → Prop} (terms : List SortTerm) (records : List Record) :
    (arrange terms records).Pairwise (fun first second => TieBy terms first second → relation first second) ↔
      records.Pairwise (fun first second => TieBy terms first second → relation first second) := by
  -- two tied records stand in a list as they stand among those that tie with the first of them
  have by_ties (items : List Record) :
      items.Pairwise (fun first second => TieBy terms first second → relation first second) ↔
        ∀ record, (items.filter (TieBy terms record ·)).Pairwise
          (fun first second => TieBy terms first second → relation first second) := by
    refine ⟨fun all record => all.sublist List.filter_sublist, fun each => ?_⟩
    refine List.pairwise_iff_forall_sublist.mpr fun {first second} within tie => ?_
    have kept := within.filter (TieBy terms first ·)
    have refl : TieBy terms first first := orderBy_eq_eq_iff.mp ReflCmp.compare_self
    rw [List.filter_cons_of_pos (by simpa using refl), List.filter_cons_of_pos (by simpa using tie)] at kept
    exact List.pairwise_iff_forall_sublist.mp (each first) kept tie
  rw [by_ties, by_ties]
  simp only [filter_arrange]

/-- Any two values can be compared, and the comparison is that of a total preorder. Arranging records by a list of
terms keeps all of them, puts each of two records first that the first term to tell them apart puts first, and leaves
records that tie by every term in the order they had, whichever way the terms go. -/
theorem arranged_stably :
    (∀ value, Json.sortOrder? value value = .eq) ∧
    (∀ first second, Json.sortOrder? second first = (Json.sortOrder? first second).swap) ∧
    (∀ first second, (Json.sortOrder? first second).isLE = true ∨ (Json.sortOrder? second first).isLE = true) ∧
    (∀ first second third, (Json.sortOrder? first second).isLE = true →
      (Json.sortOrder? second third).isLE = true → (Json.sortOrder? first third).isLE = true) ∧
    ∀ (terms : List SortTerm) (records : List Record),
      (arrange terms records).Perm records ∧
      (arrange terms records).Pairwise (fun first second =>
        TieBy terms first second ∨ Leads terms first second) ∧
      ∀ record, (arrange terms records).filter (TieBy terms record ·) = records.filter (TieBy terms record ·) :=
  ⟨fun _ => ReflCmp.compare_self, fun _ _ => OrientedCmp.eq_swap, isLE_total Json.sortOrder?,
    fun _ _ _ => TransCmp.isLE_trans, fun terms records =>
      ⟨List.mergeSort_perm records _, pairwise_arrange terms records, filter_arrange terms records⟩⟩

end SortTerm

end RecordMapper
