import Mathlib
import RecordMapper.Criteria.Matching
import RecordMapper.Proofs.Text.FinalSigma

/-! # Texts that hold an operand as it is written

Text tests compare the lower case of a value with that of the operand. A value that begins with the operand, ends with
it or holds it, letter for letter, passes the test as long as every sigma of the operand has the same form in the
value as it has in the operand alone, and not otherwise.
-/

namespace RecordMapper

open Text

theorem holdsPart_iff (part text : List Char) : holdsPart part text = true ↔ part <:+: text := by
  induction text with
  | nil => rw [holdsPart, List.isEmpty_iff, List.infix_nil]
  | cons char rest ih => rw [holdsPart, Bool.or_eq_true, List.isPrefixOf_iff_prefix, ih, List.infix_cons_iff]

namespace Test

theorem lower_eq (content : String) : lower content = lowerBetween [] [] content.toList :=
  lowerAfter_eq [] content.toList

/-- The lower case of a text is put together from those of two parts of it. -/
theorem lower_append (first second : String) :
    lower (first ++ second) =
      lowerBetween [] second.toList first.toList ++ lowerBetween first.toList.reverse [] second.toList := by
  rw [lower_eq, String.toList_append, lowerBetween_append, List.append_nil, List.append_nil]

/-- The lower case of a part of a text stands within that of the text. -/
theorem lowerBetween_infix (before part after : String) :
    lowerBetween before.toList.reverse after.toList part.toList <:+: lower (before ++ part ++ after) := by
  refine ⟨lowerBetween [] (part.toList ++ after.toList) before.toList, ?_⟩
  rw [lower_append, String.toList_append, lowerBetween_append, List.append_nil]
  exact ⟨_, rfl⟩

/-- A text that begins with another one passes for it unless that one ends in a sigma whose form is changed by what
follows. -/
theorem startsWith_iff (start rest : String) :
    (Test.startsWith start).passes (.text (start ++ rest)) = true ↔
      ¬(EndsOpen start.toList ∧ meetsCased rest.toList = true) := by
  change List.isPrefixOf (lower start) (lower (start ++ rest)) = true ↔ _
  rw [List.isPrefixOf_iff_prefix, lower_append, lower_eq]
  constructor
  · rintro ⟨others, same⟩ ⟨opens, cased⟩
    obtain ⟨first, second, alone, within⟩ := opens.exists_forms cased
    have forms := List.append_inj_left same (length_lowerBetween ..)
    rw [alone, within, List.append_cancel_left_eq, List.cons.injEq] at forms
    exact absurd forms.1 (by decide)
  · intro closed
    rw [lowerBetween_eq_of_closed closed (by simp [meetsCased])]
    exact List.prefix_append _ _

/-- A text that ends with another one passes for it unless that one starts with a sigma whose form is changed by what
is before it. -/
theorem endsWith_iff (before ending : String) :
    (Test.endsWith ending).passes (.text (before ++ ending)) = true ↔
      ¬(StartsOpen ending.toList ∧ meetsCased before.toList.reverse = true) := by
  change List.isSuffixOf (lower ending) (lower (before ++ ending)) = true ↔ _
  rw [List.isSuffixOf_iff_suffix, lower_append, lower_eq]
  constructor
  · rintro ⟨others, same⟩ ⟨opens, cased⟩
    obtain ⟨first, second, alone, within⟩ := opens.exists_forms cased
    have forms := List.append_inj_right' same (length_lowerBetween ..)
    rw [alone, within, List.append_cancel_left_eq, List.cons.injEq] at forms
    exact absurd forms.1 (by decide)
  · intro closed
    rw [lowerBetween_eq_of_closed (by simp [meetsCased]) closed]
    exact List.suffix_append _ _

/-- A text that holds another one passes for it if no sigma of that one changes its form in it. -/
theorem contains_of_closed {before part after : String}
    (ends : ¬(EndsOpen part.toList ∧ meetsCased after.toList = true))
    (starts : ¬(StartsOpen part.toList ∧ meetsCased before.toList.reverse = true)) :
    (Test.contains part).passes (.text (before ++ part ++ after)) = true := by
  change holdsPart (lower part) (lower (before ++ part ++ after)) = true
  rw [holdsPart_iff, lower_eq, ← lowerBetween_eq_of_closed ends starts]
  exact lowerBetween_infix before part after

/-- A text is not found where one character of it is another one, unless what is around it makes up for that. -/
theorem not_infix_of_changed {around first second more : List Char} {char other : Char} (differ : other ≠ char)
    (notAround : char ∉ around) (notAfter : char ∉ more) :
    ¬first ++ char :: second <:+: around ++ ((first ++ other :: second) ++ more) := by
  intro within
  have counts := within.sublist.count_le char
  simp only [List.count_append, List.count_cons, beq_self_eq_true, beq_eq_false_iff_ne.mpr differ,
    List.count_eq_zero_of_not_mem notAround, List.count_eq_zero_of_not_mem notAfter] at counts
  simp at counts

theorem meetsCased_letter : meetsCased ['a'] = true := by
  decide +kernel

theorem lowerBetween_letter (before after : List Char) : lowerBetween before after ['a'] = ['a'] := by
  have lowered : lowerChar 'a' = ['a'] := by decide +kernel
  rw [lowerBetween, formBetween, if_neg (by decide), lowered]
  rfl

/-- A text that ends open is not found before a letter. -/
theorem not_contains_of_endsOpen {part : String} (opens : EndsOpen part.toList) :
    (Test.contains part).passes (.text ("" ++ part ++ "a")) = false := by
  rw [Bool.eq_false_iff]
  change ¬holdsPart (lower part) (lower ("" ++ part ++ "a")) = true
  obtain ⟨first, second, alone, changed⟩ := opens.exists_forms meetsCased_letter
  rw [holdsPart_iff, String.empty_append, lower_append, lower_eq, alone, show "a".toList = ['a'] from rfl, changed,
    lowerBetween_letter]
  exact not_infix_of_changed (by decide) List.not_mem_nil (by decide)

/-- A text that starts open is not found after a letter. -/
theorem not_contains_of_startsOpen {part : String} (opens : StartsOpen part.toList) :
    (Test.contains part).passes (.text ("a" ++ part ++ "")) = false := by
  rw [Bool.eq_false_iff]
  change ¬holdsPart (lower part) (lower ("a" ++ part ++ "")) = true
  obtain ⟨first, second, alone, changed⟩ := opens.exists_forms meetsCased_letter
  have whole : lower ("a" ++ part) = ['a'] ++ (lowerBetween ['a'] [] part.toList ++ []) := by
    rw [lower_append, show "a".toList = ['a'] from rfl, lowerBetween_letter, List.append_nil]
    rfl
  rw [holdsPart_iff, String.append_empty, whole, lower_eq, alone, changed]
  exact not_infix_of_changed (by decide) (by decide) (by simp)

/-- A part of a text is found in it unless the part ends or starts open, and meets a cased character there. -/
theorem contains_or_opens (before part after : String) :
    (Test.contains part).passes (.text (before ++ part ++ after)) = true ∨
      (EndsOpen part.toList ∧ meetsCased after.toList = true) ∨
      (StartsOpen part.toList ∧ meetsCased before.toList.reverse = true) := by
  by_contra missed
  simp only [not_or] at missed
  exact missed.1 (contains_of_closed missed.2.1 missed.2.2)

/-- A text is found in all texts that hold it exactly if it neither starts nor ends open. -/
theorem contains_everywhere_iff (part : String) :
    (∀ before after : String, (Test.contains part).passes (.text (before ++ part ++ after)) = true) ↔
      ¬EndsOpen part.toList ∧ ¬StartsOpen part.toList := by
  constructor
  · intro found
    refine ⟨fun opens => ?_, fun opens => ?_⟩
    · exact absurd (found "" "a") (Bool.eq_false_iff.mp (not_contains_of_endsOpen opens))
    · exact absurd (found "a" "") (Bool.eq_false_iff.mp (not_contains_of_startsOpen opens))
  · rintro ⟨ends, starts⟩ before after
    exact contains_of_closed (fun opens => ends opens.1) (fun opens => starts opens.1)

/-- Text tests find what is literally there, except for a capital sigma whose form depends on what is around it. Where
nothing is before a part of a text, the text passes as beginning with it exactly if the part does not end open or no
cased character follows; where nothing is after it, as ending with it exactly if the part does not start open or no
cased character is before it; and it passes as holding the part if neither is the case. In all texts that hold it the
part is found exactly if it neither starts nor ends open. -/
theorem literal_found_iff (before part after : String) :
    ((Test.startsWith part).passes (.text (part ++ after)) = true ↔
      ¬(EndsOpen part.toList ∧ meetsCased after.toList = true)) ∧
    ((Test.endsWith part).passes (.text (before ++ part)) = true ↔
      ¬(StartsOpen part.toList ∧ meetsCased before.toList.reverse = true)) ∧
    ((Test.contains part).passes (.text (before ++ part ++ after)) = true ∨
      (EndsOpen part.toList ∧ meetsCased after.toList = true) ∨
      (StartsOpen part.toList ∧ meetsCased before.toList.reverse = true)) ∧
    ((∀ before after : String, (Test.contains part).passes (.text (before ++ part ++ after)) = true) ↔
      ¬EndsOpen part.toList ∧ ¬StartsOpen part.toList) :=
  ⟨startsWith_iff part after, endsWith_iff before part, contains_or_opens before part after,
    contains_everywhere_iff part⟩

/-- A text does not pass as beginning with a text that it begins with: alone that one ends in a final sigma. -/
theorem asa_not_found : (Test.startsWith "ΑΣ").passes (.text ("ΑΣ" ++ "Α")) = false := by
  have opens : EndsOpen "ΑΣ".toList := ⟨['Α'], [], rfl, by decide +kernel, rfl⟩
  have cased : meetsCased "Α".toList = true := by decide +kernel
  rw [Bool.eq_false_iff]
  intro passes
  exact (literal_found_iff "" "ΑΣ" "Α").1.mp passes ⟨opens, cased⟩

end Test

end RecordMapper
