/-!
# Lines

A text is cut at its line feeds. Every line feed ends a line, so a text that ends in one has no
empty line after it. A carriage return before the line feed stays in the line: it is blank, and
lines are trimmed before they are read.

A file comes as bytes and each of its lines is decoded by itself, so that a line that is not UTF-8
spoils nothing before it. `linesOfBytes` answers `none` for such a line.
-/

namespace SampleChart.Text

section Cut

variable {α : Type} [DecidableEq α]

/-- The pieces that `mark` ends, and what follows the last mark if that is not empty. -/
def cutAfter (mark : α) : List α → List (List α)
  | [] => []
  | item :: rest =>
      if item = mark then [] :: cutAfter mark rest
      else
        match cutAfter mark rest with
        | [] => [[item]]
        | piece :: pieces => (item :: piece) :: pieces

/-- The pieces between the marks, of which there is one more than there are marks. -/
def cutBetween (mark : α) : List α → List (List α)
  | [] => [[]]
  | item :: rest =>
      if item = mark then [] :: cutBetween mark rest
      else
        match cutBetween mark rest with
        | [] => [[item]]
        | piece :: pieces => (item :: piece) :: pieces

/-- What stands before and after the first mark, if there is one. -/
def cutAtFirst (mark : α) : List α → Option (List α × List α)
  | [] => none
  | item :: rest =>
      if item = mark then some ([], rest)
      else (cutAtFirst mark rest).map fun (before, after) => (item :: before, after)

/-- What stands before and after the last mark, if there is one. -/
def cutAtLast (mark : α) : List α → Option (List α × List α)
  | [] => none
  | item :: rest =>
      match cutAtLast mark rest with
      | some (before, after) => some (item :: before, after)
      | none => if item = mark then some ([], rest) else none

theorem cutBetween_ne_nil (mark : α) (items : List α) : cutBetween mark items ≠ [] := by
  cases items with
  | nil => simp [cutBetween]
  | cons item rest => grind [cutBetween]

theorem cutAtFirst_eq_none_iff {mark : α} {items : List α} :
    cutAtFirst mark items = none ↔ mark ∉ items := by
  induction items with
  | nil => simp [cutAtFirst]
  | cons item rest ih =>
      by_cases isMark : item = mark
      · simp [cutAtFirst, isMark]
      · simp [cutAtFirst, isMark, ih, Ne.symm isMark]

/-- A cut at the first mark takes nothing away, and no mark stands before it. -/
theorem eq_append_of_cutAtFirst {mark : α} {items before after : List α}
    (cut : cutAtFirst mark items = some (before, after)) :
    items = before ++ mark :: after ∧ mark ∉ before := by
  induction items generalizing before with
  | nil => simp [cutAtFirst] at cut
  | cons item rest ih =>
      by_cases isMark : item = mark
      · grind [cutAtFirst]
      · simp only [cutAtFirst, isMark, if_false, Option.map_eq_some_iff, Prod.exists] at cut
        obtain ⟨head, tail, inner, equal⟩ := cut
        grind

end Cut

/-- The lines of a text. -/
def lines (text : String) : List String :=
  (cutAfter '\n' text.toList).map String.ofList

/-- The lines of a file, with `none` for a line that is not UTF-8. -/
def linesOfBytes (bytes : ByteArray) : List (Option String) :=
  (cutAfter 0x0a bytes.data.toList).map fun line => String.fromUTF8? ⟨line.toArray⟩

end SampleChart.Text
