import SampleChart.Text.Lines

/-!
# The first lines of a file

`firstLines` cuts a file behind one of its line feeds. What is left are bytes of the same file, and
`linesOfBytes_firstLines` says that they hold the first lines and no other: a line is decoded by
itself, so a cut between two lines changes neither.
-/

namespace SampleChart.Text

section Cut

variable {α : Type} [DecidableEq α]

/-- What stands up to a mark, which is given by its number and stays in; or all, where there are
fewer marks. -/
def upToMark (mark : α) : Nat → List α → List α
  | 0, _ => []
  | _ + 1, [] => []
  | count + 1, item :: rest =>
      if item = mark then item :: upToMark mark count rest
      else item :: upToMark mark (count + 1) rest

/-- Cutting the items up to the mark of a given number gives the first pieces, as many as that. -/
theorem cutAfter_upToMark (mark : α) (count : Nat) (items : List α) :
    cutAfter mark (upToMark mark count items) = (cutAfter mark items).take count := by
  induction items generalizing count with
  | nil => cases count <;> simp [upToMark, cutAfter]
  | cons item rest ih =>
      cases count with
      | zero => simp [upToMark, cutAfter]
      | succ count =>
          by_cases isMark : item = mark
          · simp [upToMark, cutAfter, isMark, ih]
          · simp only [upToMark, cutAfter, isMark, if_false, ih]
            cases cutAfter mark rest <;> simp

end Cut

/-- The first lines of a file, with the line feeds that end them. -/
def firstLines (count : Nat) (bytes : ByteArray) : ByteArray :=
  ⟨(upToMark 0x0a count bytes.data.toList).toArray⟩

/-- The first lines of some bytes, cut into lines, are the first of their lines. -/
theorem linesOfBytes_firstLines (count : Nat) (bytes : ByteArray) :
    linesOfBytes (firstLines count bytes) = (linesOfBytes bytes).take count := by
  simp [linesOfBytes, firstLines, cutAfter_upToMark]

end SampleChart.Text
