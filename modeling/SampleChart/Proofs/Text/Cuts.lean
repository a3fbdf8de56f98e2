import Mathlib.Data.List.Basic
import SampleChart.Text.Lines

/-!
# Cutting and joining

A text that is cut between its marks can be cut part by part: a mark that stands between two parts
separates their pieces and belongs to neither. So pieces that hold no mark come out again as they
were put in when they are joined by marks and cut. Lines are cut behind their ends and not between
them, and `cutBetween_eq_cutAfter` says that the two ways differ in an empty last piece at most.
-/

namespace SampleChart.Text

variable {α : Type} [DecidableEq α] {mark : α}

theorem cutBetween_of_not_mem {items : List α} (unmarked : mark ∉ items) :
    cutBetween mark items = [items] := by
  induction items with
  | nil => rfl
  | cons item rest ih =>
      simp only [List.mem_cons, not_or] at unmarked
      simp [cutBetween, Ne.symm unmarked.1, ih unmarked.2]

theorem cutBetween_append (mark : α) (before after : List α) :
    cutBetween mark (before ++ mark :: after) =
      cutBetween mark before ++ cutBetween mark after := by
  induction before with
  | nil => simp [cutBetween]
  | cons item rest ih =>
      by_cases isMark : item = mark
      · simp [cutBetween, isMark, ih]
      · rcases pieces : cutBetween mark rest with _ | ⟨first, others⟩
        · exact absurd pieces (cutBetween_ne_nil mark rest)
        · simp [cutBetween, isMark, ih, pieces]

theorem not_mem_of_mem_cutBetween (items : List α) :
    ∀ piece ∈ cutBetween mark items, mark ∉ piece := by
  induction items with
  | nil => simp [cutBetween]
  | cons item rest ih =>
      by_cases isMark : item = mark
      · simpa [cutBetween, isMark] using ih
      · rcases pieces : cutBetween mark rest with _ | ⟨first, others⟩
        · exact absurd pieces (cutBetween_ne_nil mark rest)
        · simpa [cutBetween, isMark, Ne.symm isMark, pieces] using ih

theorem cutAtLast_eq_none_iff {items : List α} : cutAtLast mark items = none ↔ mark ∉ items := by
  induction items with
  | nil => simp [cutAtLast]
  | cons item rest ih =>
      rw [List.mem_cons, not_or, ← ih, cutAtLast]
      rcases cutAtLast mark rest with _ | ⟨before, after⟩
      · simp [eq_comm]
      · simp

/-- A cut at the last mark takes nothing away, and no mark stands behind it. -/
theorem eq_append_of_cutAtLast {items before after : List α}
    (cut : cutAtLast mark items = some (before, after)) :
    items = before ++ mark :: after ∧ mark ∉ after := by
  induction items generalizing before with
  | nil => cases cut
  | cons item rest ih =>
      rw [cutAtLast] at cut
      split at cut
      next inner =>
          rcases Prod.mk.inj (Option.some.inj cut) with ⟨rfl, rfl⟩
          rcases ih inner with ⟨equal, unmarked⟩
          exact ⟨by rw [equal, List.cons_append], unmarked⟩
      next unmarked =>
          split_ifs at cut with isMark
          rcases Prod.mk.inj (Option.some.inj cut) with ⟨rfl, rfl⟩
          exact ⟨by rw [isMark, List.nil_append], cutAtLast_eq_none_iff.mp unmarked⟩

theorem cutAtLast_append {after : List α} (unmarked : mark ∉ after) (before : List α) :
    cutAtLast mark (before ++ mark :: after) = some (before, after) := by
  induction before with
  | nil => simp [cutAtLast, cutAtLast_eq_none_iff.mpr unmarked]
  | cons item rest ih => simp [cutAtLast, ih]

/-- Pieces without a mark are what is cut again from the text that they are joined to. -/
theorem cutBetween_intercalate {pieces : List (List α)} (nonempty : pieces ≠ [])
    (unmarked : ∀ piece ∈ pieces, mark ∉ piece) :
    cutBetween mark (List.intercalate [mark] pieces) = pieces := by
  induction pieces with
  | nil => exact absurd rfl nonempty
  | cons piece rest ih =>
      have alone := cutBetween_of_not_mem (unmarked piece (by simp))
      cases rest with
      | nil => simpa using alone
      | cons next others =>
          rw [List.intercalate_cons_cons, List.append_assoc, List.singleton_append,
            cutBetween_append, alone, ih (by simp) (by simp_all)]
          rfl

/-- Joined by marks again, the pieces of a text give the text. -/
theorem intercalate_cutBetween (mark : α) (items : List α) :
    List.intercalate [mark] (cutBetween mark items) = items := by
  induction items with
  | nil => simp [cutBetween]
  | cons item rest ih =>
      rcases pieces : cutBetween mark rest with _ | ⟨first, others⟩
      · exact absurd pieces (cutBetween_ne_nil mark rest)
      · rw [pieces] at ih
        by_cases isMark : item = mark
        · rw [cutBetween, if_pos isMark, pieces, List.intercalate_cons_cons, ih, isMark]
          rfl
        · rw [cutBetween, if_neg isMark, pieces, List.intercalate_cons_cons_left, ih]

theorem cutAtFirst_append {before : List α} (unmarked : mark ∉ before) (after : List α) :
    cutAtFirst mark (before ++ mark :: after) = some (before, after) := by
  induction before with
  | nil => simp [cutAtFirst]
  | cons item rest ih =>
      simp only [List.mem_cons, not_or] at unmarked
      simp [cutAtFirst, Ne.symm unmarked.1, ih unmarked.2]

/-- The two ways to cut differ only where the last piece is empty, which no mark ends. -/
theorem cutBetween_eq_cutAfter (mark : α) (items : List α) :
    cutBetween mark items = cutAfter mark items ∨
      cutBetween mark items = cutAfter mark items ++ [[]] := by
  induction items with
  | nil => simp [cutBetween, cutAfter]
  | cons item rest ih =>
      by_cases isMark : item = mark
      · simpa [cutBetween, cutAfter, isMark] using ih
      · rcases pieces : cutAfter mark rest with _ | ⟨first, others⟩
        · rcases ih with same | ended
          · exact absurd (same.trans pieces) (cutBetween_ne_nil mark rest)
          · simp [cutBetween, cutAfter, isMark, pieces, ended]
        · rcases ih with same | ended
          · simp [cutBetween, cutAfter, isMark, pieces, same]
          · simp [cutBetween, cutAfter, isMark, pieces, ended]

/-- Lines that are neither empty nor broken are what is cut again from their text. -/
theorem cutAfter_intercalate {pieces : List (List α)}
    (whole : ∀ piece ∈ pieces, piece ≠ [] ∧ mark ∉ piece) :
    cutAfter mark (List.intercalate [mark] pieces) = pieces := by
  by_cases nonempty : pieces = []
  · simp [nonempty, cutAfter]
  · have cut := cutBetween_intercalate nonempty fun piece present => (whole piece present).2
    rcases cutBetween_eq_cutAfter mark (List.intercalate [mark] pieces) with same | ended
    · exact same.symm.trans cut
    · have empty_last : [] ∈ pieces := by
        rw [← cut, ended]
        simp
      exact absurd rfl (whole [] empty_last).1

theorem cutAfter_append {before : List α} (unmarked : mark ∉ before) (after : List α) :
    cutAfter mark (before ++ mark :: after) = before :: cutAfter mark after := by
  induction before with
  | nil => simp [cutAfter]
  | cons item rest ih =>
      simp only [List.mem_cons, not_or] at unmarked
      simp [cutAfter, Ne.symm unmarked.1, ih unmarked.2]

/-- A line in front of a text is the first of its lines. -/
theorem lines_append {line : String} (single : '\n' ∉ line.toList) (text : String) :
    lines (line ++ "\n" ++ text) = line :: lines text := by
  have joined : (line ++ "\n" ++ text).toList = line.toList ++ '\n' :: text.toList := by simp
  rw [lines, joined, cutAfter_append single]
  simp [lines]

end SampleChart.Text
