import Mathlib
import RecordMapper.Text.LowerCase

/-! # The lower case of a part of a text

Character for character, the lower case of a text depends on its surroundings in one place only: a capital sigma is
final or not. What stands around a part of a text settles that for at most two of its sigmas, the first one if nothing
but case-ignorable characters is before it, and the last one if nothing else is after it.
-/

namespace RecordMapper.Text

variable {before after others more text : List Char}

/-- Whether a capital sigma is final between other characters, those before it nearest first. -/
def isFinal (before after : List Char) : Bool :=
  meetsCased before && !meetsCased after

/-- The lower case of a character between others. -/
def formBetween (before : List Char) (char : Char) (after : List Char) : List Char :=
  if char = 'Σ' then if isFinal before after then ['ς'] else ['σ'] else lowerChar char

/-- The lower case of a part of a text, between what is before it, nearest first, and what is after it. -/
def lowerBetween (before after : List Char) : List Char → List Char
  | [] => []
  | char :: rest => formBetween before char (rest ++ after) ++ lowerBetween (char :: before) after rest

theorem toNat_eq_sigma_iff (char : Char) : char.toNat = 0x3a3 ↔ char = 'Σ' := by
  constructor
  · intro same
    exact Char.toNat_inj.mp same
  · rintro rfl
    rfl

/-- The lower case of a text is that of all of it, with nothing after it. -/
theorem lowerAfter_eq (before text : List Char) : lowerAfter before text = lowerBetween before [] text := by
  induction text generalizing before with
  | nil => rfl
  | cons char rest ih =>
    simp only [lowerAfter, lowerBetween, formBetween, isFinal, toNat_eq_sigma_iff, ih, List.append_nil]

/-- The lower case of a text is put together from those of its parts, each between the others. -/
theorem lowerBetween_append (before after first second : List Char) :
    lowerBetween before after (first ++ second) =
      lowerBetween before (second ++ after) first ++ lowerBetween (first.reverse ++ before) after second := by
  induction first generalizing before with
  | nil => rfl
  | cons char rest ih => simp [lowerBetween, ih]

theorem length_formBetween (before after others more : List Char) (char : Char) :
    (formBetween before char after).length = (formBetween others char more).length := by
  unfold formBetween
  split
  · split <;> split <;> rfl
  · rfl

theorem length_lowerBetween (before after others more text : List Char) :
    (lowerBetween before after text).length = (lowerBetween others more text).length := by
  induction text generalizing before others with
  | nil => rfl
  | cons char rest ih =>
    rw [lowerBetween, lowerBetween, List.length_append, List.length_append, ih _ (char :: others),
      length_formBetween _ _ others (rest ++ more)]

/-- Only sigmas depend on what is around them. -/
theorem lowerBetween_congr
    (alike : ∀ start rest, text = start ++ 'Σ' :: rest →
      isFinal (start.reverse ++ before) (rest ++ after) = isFinal (start.reverse ++ others) (rest ++ more)) :
    lowerBetween before after text = lowerBetween others more text := by
  induction text generalizing before others with
  | nil => rfl
  | cons char rest ih =>
    rw [lowerBetween, lowerBetween]
    congr 1
    · unfold formBetween
      split
      · next isSigma =>
        subst isSigma
        rw [show isFinal before (rest ++ after) = isFinal others (rest ++ more) from alike [] rest rfl]
      · rfl
    · refine ih fun start ending split => ?_
      have same := alike (char :: start) ending (by rw [split, List.cons_append])
      simpa using same

/-! ## What a sigma sees of its surroundings -/

/-- The characters next to a sigma that are not case-ignorable hide all others from it. -/
theorem meetsCased_append (first second : List Char) :
    meetsCased (first ++ second) = if first.all isCaseIgnorable then meetsCased second else meetsCased first := by
  induction first with
  | nil => rfl
  | cons char rest ih =>
    unfold meetsCased at ih ⊢
    rw [List.cons_append, List.dropWhile_cons, List.dropWhile_cons, List.all_cons]
    cases ignorable : isCaseIgnorable char with
    | false => rfl
    | true => simpa using ih

theorem not_meetsCased_of_ignorable (ignorable : text.all isCaseIgnorable = true) : meetsCased text = false := by
  have whole := meetsCased_append text []
  rw [if_pos ignorable, List.append_nil] at whole
  exact whole

theorem not_ignorable_sigma : isCaseIgnorable 'Σ' = false := by
  decide +kernel

theorem meetsCased_sigma (rest : List Char) : meetsCased ('Σ' :: rest) = true := by
  rw [meetsCased, List.dropWhile_cons, not_ignorable_sigma]
  change isCased 'Σ' = true
  decide +kernel

/-- A part that lets a sigma through to what is around it holds no sigma. -/
theorem ne_of_ignorable (ignorable : text.all isCaseIgnorable = true) (start rest : List Char) :
    text ≠ start ++ 'Σ' :: rest := by
  rintro rfl
  simp [not_ignorable_sigma] at ignorable

theorem lowerBetween_of_ignorable (ignorable : text.all isCaseIgnorable = true) (before after others more : List Char) :
    lowerBetween before after text = lowerBetween others more text :=
  lowerBetween_congr fun start rest split => absurd split (ne_of_ignorable ignorable start rest)

/-- No character sees past a sigma. -/
theorem meetsCased_past_sigma (first others more : List Char) :
    meetsCased (first ++ 'Σ' :: others) = meetsCased (first ++ 'Σ' :: more) := by
  simp only [meetsCased_append, meetsCased_sigma]

/-- A sigma takes its form, and the parts before it and after it do not depend on what is past it. -/
theorem lowerBetween_sigma (before after start rest : List Char) :
    lowerBetween before after (start ++ 'Σ' :: rest) =
      lowerBetween before ['Σ'] start ++
        (if isFinal (start.reverse ++ before) (rest ++ after) then 'ς' else 'σ') :: lowerBetween ['Σ'] after rest := by
  rw [lowerBetween_append, lowerBetween]
  congr 1
  · refine lowerBetween_congr fun first others _ => ?_
    rw [isFinal, isFinal, List.cons_append, meetsCased_past_sigma others _ []]
  · rw [formBetween, if_pos rfl]
    have alike : lowerBetween ('Σ' :: (start.reverse ++ before)) after rest = lowerBetween ['Σ'] after rest :=
      lowerBetween_congr fun first others _ => by
        rw [isFinal, isFinal, meetsCased_past_sigma first.reverse _ []]
    rw [alike]
    split <;> rfl

/-! ## The sigmas that depend on what is around a text -/

/-- The last sigma of a text is final, but with a cased character after the text it would not be. -/
def EndsOpen (text : List Char) : Prop :=
  ∃ start rest, text = start ++ 'Σ' :: rest ∧ meetsCased start.reverse = true ∧ rest.all isCaseIgnorable = true

/-- The first sigma of a text is not final, but with a cased character before the text it would be. -/
def StartsOpen (text : List Char) : Prop :=
  ∃ start rest, text = start ++ 'Σ' :: rest ∧ start.all isCaseIgnorable = true ∧ meetsCased rest = false

/-- Where no sigma depends on what is around a text, the text has the lower case that it has alone. -/
theorem lowerBetween_eq_of_closed (ends : ¬(EndsOpen text ∧ meetsCased after = true))
    (starts : ¬(StartsOpen text ∧ meetsCased before = true)) :
    lowerBetween before after text = lowerBetween [] [] text := by
  refine lowerBetween_congr fun start rest split => ?_
  have noneAfter : rest.all isCaseIgnorable = true → meetsCased start.reverse = true → meetsCased after = false := by
    intro ignorable meets
    simpa using fun cased => ends ⟨⟨start, rest, split, meets, ignorable⟩, cased⟩
  have noneBefore : start.all isCaseIgnorable = true → meetsCased rest = false → meetsCased before = false := by
    intro ignorable misses
    simpa using fun cased => starts ⟨⟨start, rest, split, ignorable, misses⟩, cased⟩
  simp only [isFinal, meetsCased_append, List.all_reverse, List.append_nil]
  cases hidesBefore : start.all isCaseIgnorable with
  | true =>
    have misses : meetsCased start.reverse = false :=
      not_meetsCased_of_ignorable (by rwa [List.all_reverse])
    cases hidesAfter : rest.all isCaseIgnorable with
    | true => simp [misses, noneBefore hidesBefore (not_meetsCased_of_ignorable hidesAfter)]
    | false =>
      cases meets : meetsCased rest with
      | true => simp
      | false => simp [misses, noneBefore hidesBefore meets]
  | false =>
    cases hidesAfter : rest.all isCaseIgnorable with
    | true =>
      cases meets : meetsCased start.reverse with
      | true => simp [noneAfter hidesAfter meets, not_meetsCased_of_ignorable hidesAfter]
      | false => simp
    | false => simp

/-- The two lower cases of a text that ends open, alone and before a cased character: they differ in one place. -/
theorem EndsOpen.exists_forms (opens : EndsOpen text) {after : List Char} (cased : meetsCased after = true) :
    ∃ first second, lowerBetween [] [] text = first ++ 'ς' :: second ∧
      lowerBetween [] after text = first ++ 'σ' :: second := by
  obtain ⟨start, rest, rfl, meets, ignorable⟩ := opens
  have final : isFinal (start.reverse ++ []) (rest ++ []) = true := by
    simp [isFinal, meets, not_meetsCased_of_ignorable ignorable]
  have notFinal : isFinal (start.reverse ++ []) (rest ++ after) = false := by
    simp [isFinal, meetsCased_append, ignorable, cased]
  refine ⟨lowerBetween [] ['Σ'] start, lowerBetween ['Σ'] [] rest, ?_, ?_⟩
  · rw [lowerBetween_sigma, final]
    rfl
  · rw [lowerBetween_sigma, notFinal, lowerBetween_of_ignorable ignorable ['Σ'] after ['Σ'] []]
    rfl

/-- The two lower cases of a text that starts open, alone and after a cased character: they differ in one place. -/
theorem StartsOpen.exists_forms (opens : StartsOpen text) {before : List Char} (cased : meetsCased before = true) :
    ∃ first second, lowerBetween [] [] text = first ++ 'σ' :: second ∧
      lowerBetween before [] text = first ++ 'ς' :: second := by
  obtain ⟨start, rest, rfl, ignorable, misses⟩ := opens
  have notFinal : isFinal (start.reverse ++ []) (rest ++ []) = false := by
    rw [isFinal, List.append_nil, not_meetsCased_of_ignorable (by rwa [List.all_reverse])]
    rfl
  have final : isFinal (start.reverse ++ before) (rest ++ []) = true := by
    simp [isFinal, meetsCased_append, ignorable, cased, misses]
  refine ⟨lowerBetween [] ['Σ'] start, lowerBetween ['Σ'] [] rest, ?_, ?_⟩
  · rw [lowerBetween_sigma, notFinal]
    rfl
  · rw [lowerBetween_sigma, final, lowerBetween_of_ignorable ignorable before ['Σ'] [] ['Σ']]
    rfl

end RecordMapper.Text
