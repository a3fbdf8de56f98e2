import SampleChart.Proofs.Reading.Step
import SampleChart.Proofs.Text.Cuts
import SampleChart.Proofs.Text.Spacing

/-!
# Normal forms of results files

The normal form of a text has its lines trimmed, no blank lines, a single space for every run of
blanks inside a line, and no line feed at the end. It says the same as the text: nothing that is
read depends on how a line is spaced, since `readContent_congr` finds it in the fields alone. What
changes is the number of a line, which in the normal form is its rank among those that are not
blank. The two readings run over lists of different length, so `readLines_normal` follows them with
two counts, of the lines passed and of the lines passed that are not blank.
-/

namespace SampleChart

namespace Line

/-- A line without blanks at its ends and with a space for every run of blanks inside. -/
def normal (line : String) : String :=
  Text.collapse (Text.trim line)

/-- The rank of the line with a number among the lines that are not blank: how many lines up to it
are not blank. -/
def rank (text : String) (number : Nat) : Nat :=
  ((Text.lines text).take number).countP fun line => !isBlank line

/-- A line in normal form has the same fields. -/
@[simp]
theorem fields_normal (line : String) : Text.fields (normal line) = Text.fields line := by
  simp [normal]

theorem trim_normal (line : String) : Text.trim (normal line) = normal line :=
  Text.trim_collapse_trim line

theorem isBlank_iff {line : String} : isBlank line = true ↔ Text.fields line = [] :=
  Text.isEmpty_trim_iff

theorem isBlank_normal (line : String) : isBlank (normal line) = isBlank line := by
  rw [Bool.eq_iff_iff, isBlank_iff, isBlank_iff, fields_normal]

end Line

namespace Text

/-- The lines of a text that are not blank, in their normal form and without a last line feed. -/
def normal (text : String) : String :=
  "\n".intercalate ((Line.contents text).map Line.normal)

/-- The lines of a text in normal form are those of the text that are not blank, each in normal
form. -/
theorem lines_normal (text : String) :
    lines (normal text) = (Line.contents text).map Line.normal := by
  have whole : ∀ piece ∈ ((Line.contents text).map Line.normal).map String.toList,
      piece ≠ [] ∧ '\n' ∉ piece := by
    simp only [List.mem_map]
    rintro _ ⟨_, ⟨line, present, rfl⟩, rfl⟩
    have written : Line.isBlank (Line.normal line) = false := by
      rw [Line.isBlank_normal]
      simpa using (List.mem_filter.mp present).2
    refine ⟨?_, lineFeed_not_mem_collapse _⟩
    intro nothing
    rw [String.toList_eq_nil_iff.mp nothing] at written
    simp [Line.isBlank, trim, Characters.trim, Characters.trimEnd] at written
  have joined : (normal text).toList =
      List.intercalate ['\n'] (((Line.contents text).map Line.normal).map String.toList) := by
    rw [normal, String.toList_intercalate]
    rfl
  rw [lines, joined, cutAfter_intercalate whole]
  simp [Function.comp_def]

end Text

namespace Reading

variable {left right : String}

/-- A sample is read by its fields alone. -/
theorem readSample_congr (reading : Reading) (same : Text.fields left = Text.fields right) :
    reading.readSample (Text.trim left) = reading.readSample (Text.trim right) := by
  have same_value : sampleValue (Text.trim left) = sampleValue (Text.trim right) := by
    simp only [sampleValue, Text.float?_trim, same]
  rw [readSample, readSample, sampleParts.eq_def, sampleParts.eq_def]
  cases reading.layout <;> cases reading.series <;> cases reading.benchmark <;>
    simp [bind, Except.bind, Text.fields_trim, same, same_value]

/-- What a line does is decided by its fields. -/
theorem readContent_congr (reading : Reading) (same : Text.fields left = Text.fields right) :
    reading.readContent (Text.trim left) = reading.readContent (Text.trim right) := by
  simp only [readContent, Text.fields_trim, same, readSample_congr _ same]

/-- An error in some lines and the error in their normal form: the same fault of the same line,
which has its rank for a number there. The lines follow others, of which some were not blank. -/
inductive RanksLine (passed written : Nat) (lines : List String) : Error → Error → Prop
  | format {index number rank : Nat} {line : String} {fault : LineFault}
      (present : lines[index]? = some line) (number_eq : number = passed + index + 1)
      (rank_eq : rank = written + (lines.take (index + 1)).countP fun line => !Line.isBlank line) :
      RanksLine passed written lines (.format number (Text.trim line) fault)
        (.format rank (Line.normal line) fault)

/-- A line in front counts among all lines, and among those that are left if it is not blank. -/
theorem RanksLine.cons {passed written : Nat} {rest : List String} {error error' : Error}
    (line : String)
    (ranks : RanksLine (passed + 1) (written + if Line.isBlank line then 0 else 1) rest error
      error') :
    RanksLine passed written (line :: rest) error error' := by
  cases ranks with
  | @format index number rank found fault present number_eq rank_eq =>
      have there : (line :: rest)[index + 1]? = some found := by simpa using present
      refine .format there (by omega) ?_
      rw [List.take_succ_cons, List.countP_cons, rank_eq]
      cases Line.isBlank line with
      | true => simp
      | false =>
          simp only [Bool.not_false, Bool.false_eq_true, if_false, if_true]
          omega

/-- A text and its normal form are read in step, where a blank line is no step: behind it only the
count of the lines passed is another one. -/
theorem readLines_normal (reading : Reading) (passed written : Nat) (lines : List String) :
    EndAlike (RanksLine passed written lines) Eq (reading.readLines (passed + 1) (lines.map some))
      (reading.readLines (written + 1)
        (((lines.filter fun line => !Line.isBlank line).map Line.normal).map some)) := by
  induction lines generalizing reading passed written with
  | nil => exact .ok rfl
  | cons line rest ih =>
      rw [List.map_cons, readLines]
      cases blank : Line.isBlank line with
      | true =>
          rw [readLine_of_blank _ _ blank, List.filter_cons_of_neg (by simp [blank])]
          refine (ih reading (passed + 1) written).mono ?_
          intro error error' ranks
          exact .cons line (by simpa [blank] using ranks)
      | false =>
          have same_step := readContent_congr reading (Line.fields_normal line)
          rw [List.filter_cons_of_pos (by simp [blank]), List.map_cons, List.map_cons, readLines,
            readLine_of_written _ _ blank,
            readLine_of_written _ _ ((Line.isBlank_normal line).trans blank), same_step,
            Line.trim_normal]
          cases reading.readContent (Text.trim line) with
          | error fault => exact .error (.format List.getElem?_cons_zero rfl (by simp [blank]))
          | ok next =>
              refine (ih next (passed + 1) (written + 1)).mono ?_
              intro error error' ranks
              exact .cons line (by simpa [blank] using ranks)

end Reading

namespace Table

/-- A text and its normal form are read alike: the same table, or the same fault in the same line.
-/
theorem parse_normal_alike (layout : Layout) (text : String) :
    EndAlike (Reading.RanksLine 0 0 (Text.lines text)) Eq (parse layout text)
      (parse layout (Text.normal text)) := by
  rw [parse, parse, ofLines, ofLines, Text.lines_normal]
  exact (Reading.readLines_normal (Reading.start layout) 0 0 (Text.lines text)).map
    fun _ _ same => congrArg Reading.table same

/-- How a text is spaced does not matter. Its normal form gives the same table, or it fails with the
same fault of the same line, whose number is its rank among the lines that are not blank. -/
theorem parse_normal (layout : Layout) (text : String) :
    (∀ table, parse layout text = .ok table ↔ parse layout (Text.normal text) = .ok table) ∧
    (∀ error, parse layout text = .error error →
      ∃ number content fault, error = .format number content fault ∧
        parse layout (Text.normal text) =
          .error (.format (Line.rank text number) (Text.collapse content) fault)) ∧
    ∀ error, parse layout (Text.normal text) = .error error →
      ∃ number content fault,
        error = .format (Line.rank text number) (Text.collapse content) fault ∧
          parse layout text = .error (.format number content fault) := by
  have alike := parse_normal_alike layout text
  refine ⟨fun table => alike.eq_ok_iff, ?_, ?_⟩
  · intro error failed
    rcases alike.right_of_error failed with ⟨errorNormal, failedNormal, ranks⟩
    cases ranks with
    | format present number_eq rank_eq =>
        refine ⟨_, _, _, rfl, ?_⟩
        rw [failedNormal, Line.rank, number_eq, rank_eq]
        simp [Line.normal]
  · intro error failed
    rcases alike.left_of_error failed with ⟨errorText, failedText, ranks⟩
    cases ranks with
    | format present number_eq rank_eq =>
        refine ⟨_, _, _, ?_, failedText⟩
        rw [Line.rank, number_eq, rank_eq]
        simp [Line.normal]

theorem parse_normal_of_scattered_blanks :
    Text.normal "\r\n\t# b\u00a0offset \r\n\r\n 1\u3000\t2\r\n" = "# b offset\n1 2" ∧
    parse .headerless "\r\n\t# b\u00a0offset \r\n\r\n 1\u3000\t2\r\n" =
      .error (.format 4 "1\u3000\t2" .notANumber) ∧
    parse .headerless "# b offset\n1 2" = .error (.format 2 "1 2" .notANumber) := by
  have isNormal : Text.normal "\r\n\t# b\u00a0offset \r\n\r\n 1\u3000\t2\r\n" =
      "# b offset\n1 2" := by decide +kernel
  have failed : parse .headerless "\r\n\t# b\u00a0offset \r\n\r\n 1\u3000\t2\r\n" =
      .error (.format 4 "1\u3000\t2" .notANumber) := by rfl
  have second : Line.rank "\r\n\t# b\u00a0offset \r\n\r\n 1\u3000\t2\r\n" 4 = 2 := by
    decide +kernel
  have collapsed : Text.collapse "1\u3000\t2" = "1 2" := by decide +kernel
  refine ⟨isNormal, failed, ?_⟩
  rcases (parse_normal _ _).2.1 _ failed with ⟨number, content, fault, same, failedNormal⟩
  cases same
  rwa [isNormal, second, collapsed] at failedNormal

end Table

end SampleChart
