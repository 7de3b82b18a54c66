import Mathlib
import RecordMapper.Proofs.Criteria.LiteralTexts
import RecordMapper.Proofs.Criteria.Wildcard

/-! # Patterns around a plain text

A text without wildcards is a pattern for itself, and with a run before it, after it or on both sides a pattern for
the texts that end with it, begin with it or hold it. Lower-casing neither makes a wildcard of another character nor
sees a run as a letter, so `like` with such a pattern is the dedicated text test.
-/

namespace RecordMapper

namespace Wildcard

variable {pattern subject : List Char}

/-- No character of a text is a wildcard. -/
def Plain (text : List Char) : Prop :=
  ∀ char ∈ text, char ≠ '%' ∧ char ≠ '_'

theorem matches_plain (plain : Plain pattern) : Matches pattern subject ↔ subject = pattern := by
  induction pattern generalizing subject with
  | nil => exact matches_nil
  | cons mark rest ih =>
    obtain ⟨⟨notRun, notOne⟩, later⟩ := List.forall_mem_cons.mp plain
    rw [matches_cons]
    constructor
    · rintro ⟨piece, more, rfl, takes, matched⟩
      rw [(takes_itself notRun notOne).mp takes, (ih later).mp matched]
      rfl
    · rintro rfl
      exact ⟨[mark], rest, rfl, (takes_itself notRun notOne).mpr rfl, (ih later).mpr rfl⟩

/-- A run takes all that is left. -/
theorem matches_run : Matches ['%'] subject :=
  matches_cons.mpr ⟨subject, [], (List.append_nil _).symm, takes_run subject, .nil⟩

theorem matches_before_run (plain : Plain pattern) : Matches (pattern ++ ['%']) subject ↔ pattern <+: subject := by
  rw [matches_append]
  constructor
  · rintro ⟨start, rest, rfl, matched, -⟩
    rw [(matches_plain plain).mp matched]
    exact List.prefix_append pattern rest
  · rintro ⟨rest, rfl⟩
    exact ⟨pattern, rest, rfl, (matches_plain plain).mpr rfl, matches_run⟩

theorem matches_after_run (plain : Plain pattern) : Matches ('%' :: pattern) subject ↔ pattern <:+ subject := by
  rw [matches_cons]
  constructor
  · rintro ⟨piece, rest, rfl, -, matched⟩
    rw [(matches_plain plain).mp matched]
    exact List.suffix_append piece pattern
  · rintro ⟨piece, rfl⟩
    exact ⟨piece, pattern, rfl, takes_run piece, (matches_plain plain).mpr rfl⟩

theorem matches_between_runs (plain : Plain pattern) :
    Matches ('%' :: (pattern ++ ['%'])) subject ↔ pattern <:+: subject := by
  rw [matches_cons]
  constructor
  · rintro ⟨piece, rest, rfl, -, matched⟩
    exact ((matches_before_run plain).mp matched).isInfix.trans (List.suffix_append piece rest).isInfix
  · rintro ⟨piece, rest, rfl⟩
    exact ⟨piece, pattern ++ rest, List.append_assoc .., takes_run piece,
      (matches_before_run plain).mpr (List.prefix_append pattern rest)⟩

end Wildcard

/-! ## The lower case of a pattern -/

namespace Text

open Wildcard (Plain)

theorem target_of_mem_lowerRanges {range : CaseRange} (member : range ∈ lowerRanges) : 0x60 < range.target :=
  (show ∀ range ∈ lowerRanges, 0x60 < range.target by decide +kernel) range member

/-- A character far from the wildcards is none, whether the code point is that of a character or not. -/
theorem plain_ofNat {code : Nat} (beyond : 0x60 < code) : Char.ofNat code ≠ '%' ∧ Char.ofNat code ≠ '_' := by
  constructor <;>
  · intro same
    have codes := congrArg Char.toNat same
    rw [Char.toNat_ofNat] at codes
    split at codes
    · exact absurd codes (Nat.ne_of_gt (lt_trans (by decide) beyond))
    · exact absurd codes (by decide)

/-- Lower-casing turns no other character into a wildcard. -/
theorem plain_lowerChar {char : Char} (notRun : char ≠ '%') (notOne : char ≠ '_') : Plain (lowerChar char) := by
  simp only [lowerChar]
  split
  · simp [Plain]
  · split
    · next range found =>
      have target := target_of_mem_lowerRanges (List.mem_of_find?_eq_some found)
      exact List.forall_mem_singleton.mpr (plain_ofNat (Nat.lt_add_right _ target))
    · exact List.forall_mem_singleton.mpr ⟨notRun, notOne⟩

theorem plain_formBetween {char : Char} (notRun : char ≠ '%') (notOne : char ≠ '_') (before after : List Char) :
    Plain (formBetween before char after) := by
  unfold formBetween
  split
  · split <;> simp [Plain]
  · exact plain_lowerChar notRun notOne

theorem plain_lowerBetween {text : List Char} (plain : Plain text) (before after : List Char) :
    Plain (lowerBetween before after text) := by
  induction text generalizing before with
  | nil => exact List.forall_mem_nil _
  | cons char rest ih =>
    obtain ⟨⟨notRun, notOne⟩, later⟩ := List.forall_mem_cons.mp plain
    exact List.forall_mem_append.mpr ⟨plain_formBetween notRun notOne _ _, ih later _⟩

theorem lowerBetween_run (before after : List Char) : lowerBetween before after ['%'] = ['%'] := by
  have lowered : lowerChar '%' = ['%'] := by decide +kernel
  rw [lowerBetween, formBetween, if_neg (by decide), lowered]
  rfl

/-- A run stands between a sigma and all that is past it. -/
theorem meetsCased_run : meetsCased ['%'] = false := by
  decide +kernel

theorem toList_run : "%".toList = ['%'] :=
  rfl

theorem lower_run_append (part : String) : lower ("%" ++ part) = '%' :: lower part := by
  rw [Test.lower_append, Test.lower_eq part, toList_run, lowerBetween_run,
    lowerBetween_eq_of_closed (by simp [meetsCased]) (by simp [meetsCased_run])]
  rfl

theorem lower_append_run (part : String) : lower (part ++ "%") = lower part ++ ['%'] := by
  rw [Test.lower_append, Test.lower_eq part, toList_run, lowerBetween_run,
    lowerBetween_eq_of_closed (by simp [meetsCased_run]) (by simp [meetsCased])]

end Text

namespace Test

open Text
open Wildcard (Plain)

/-- Two text tests agree if their relations do on the lower cases of their operands. -/
theorem lowered_congr {relation other : List Char → List Char → Bool} {operand operand' : String}
    (same : ∀ content, relation (lower operand) content = other (lower operand') content) (value : Json) :
    lowered relation operand value = lowered other operand' value := by
  cases value with
  | text content => exact same (lower content)
  | _ => rfl

/-- With a text that holds no wildcard, `like` agrees with the dedicated tests on every value: between runs it is
`contains`, before a run `startsWith`, after a run `endsWith`, and alone it takes the texts with the same lower
case. -/
theorem like_agrees (part : String) (plain : ∀ char ∈ part.toList, char ≠ '%' ∧ char ≠ '_') (value : Json) :
    (Test.like ("%" ++ part ++ "%")).passes value = (Test.contains part).passes value ∧
    (Test.like (part ++ "%")).passes value = (Test.startsWith part).passes value ∧
    (Test.like ("%" ++ part)).passes value = (Test.endsWith part).passes value ∧
    ((Test.like part).passes value = true ↔
      ∃ content, value = .text content ∧ lower content = lower part) := by
  have lowerPlain : Plain (lower part) := by
    rw [lower_eq]
    exact plain_lowerBetween plain [] []
  refine ⟨lowered_congr (fun content => ?_) value, lowered_congr (fun content => ?_) value,
    lowered_congr (fun content => ?_) value, ?_⟩
  · rw [lower_append_run, lower_run_append, Bool.eq_iff_iff, Wildcard.accepts_iff, List.cons_append,
      Wildcard.matches_between_runs lowerPlain, holdsPart_iff]
  · rw [lower_append_run, Bool.eq_iff_iff, Wildcard.accepts_iff, Wildcard.matches_before_run lowerPlain,
      List.isPrefixOf_iff_prefix]
  · rw [lower_run_append, Bool.eq_iff_iff, Wildcard.accepts_iff, Wildcard.matches_after_run lowerPlain,
      List.isSuffixOf_iff_suffix]
  · cases value with
    | text content =>
      change Wildcard.accepts (lower part) (lower content) = true ↔ _
      rw [Wildcard.accepts_iff, Wildcard.matches_plain lowerPlain]
      simp
    | _ => simp [passes, lowered]

/-- A sigma that is final alone is final before a run as well, and capital I with a dot becomes two characters: the
text is found within another one, not at its start, and not in a text that goes on with a letter. -/
theorem like_agrees_sigma :
    (∀ char ∈ "İΑΣ".toList, char ≠ '%' ∧ char ≠ '_') ∧
    (Test.like "%İΑΣ%").passes (.text "aİας!") = true ∧
    (Test.contains "İΑΣ").passes (.text "aİας!") = true ∧
    (Test.like "İΑΣ%").passes (.text "aİας!") = false ∧
    (Test.like "%İΑΣ").passes (.text "İΑΣΑ") = false ∧
    (Test.like "İΑΣ").passes (.text "i\u0307ας") = true := by
  have plain : ∀ char ∈ "İΑΣ".toList, char ≠ '%' ∧ char ≠ '_' := by simp
  obtain ⟨within, start, -, -⟩ := like_agrees "İΑΣ" plain (.text "aİας!")
  obtain ⟨-, -, ending, -⟩ := like_agrees "İΑΣ" plain (.text "İΑΣΑ")
  obtain ⟨-, -, -, alone⟩ := like_agrees "İΑΣ" plain (.text "i\u0307ας")
  have holds : (Test.contains "İΑΣ").passes (.text "aİας!") = true := by decide +kernel
  exact ⟨plain, within.trans holds, holds, start.trans (by decide +kernel), ending.trans (by decide +kernel),
    alone.mpr ⟨_, rfl, by decide +kernel⟩⟩

end Test

end RecordMapper
