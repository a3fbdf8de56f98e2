import SampleChart.Proofs.Reading.Registers
import SampleChart.Proofs.Text.Cuts

/-!
# The headerless layout as a fixed legend

A headerless file is a headered one whose legend is known: the line `offset native`. The two
layouts list their series at different moments and check a marker against different things, the one
against the two roles and the other against the series of the table. Behind the legend these come to
the same, because no line of a headerless file adds a series. So both readings go through the same
lines in step (`readLines_alike`), and where one is stopped the other is too.
-/

namespace SampleChart

/-- A fault of a headerless file and the fault that the same line has behind the legend. They differ
only where a marker names something else than a role. -/
inductive LineFault.Corresponds : LineFault → LineFault → Prop
  | series (name : String) : Corresponds (.unknownRole name) (.notInLegend name)
  | same {fault : LineFault} (notRole : ∀ name, fault ≠ .unknownRole name)
      (notSeries : ∀ name, fault ≠ .notInLegend name) : Corresponds fault fault

namespace Reading

variable {reading next : Reading}

/-- The reading of a headered file whose legend lists the roles, where this one does without. -/
def behindLegend (reading : Reading) : Reading :=
  { reading with layout := .headered, legendRead := true }

/-- What is read of a headerless file: the roles and no other series are listed. -/
structure ListsRoles (reading : Reading) : Prop where
  coherent : reading.Coherent
  layout_eq : reading.layout = .headerless
  series_eq : reading.table.series = Layout.roles

theorem listsRoles_start : (start .headerless).ListsRoles where
  coherent := coherent_start .headerless
  layout_eq := layout_start .headerless
  series_eq := rfl

/-- No line of a headerless file adds a series. -/
theorem ListsRoles.of_reads {line : String} (roles : reading.ListsRoles)
    (reads : reading.Reads line next) : next.ListsRoles := by
  have layout_eq := roles.layout_eq
  have settled : reading.layout ≠ .auto := by simp [layout_eq]
  refine ⟨reads.coherent settled roles.coherent, reads.layout_eq.trans layout_eq, ?_⟩
  cases reads with
  | legend awaits => simp [awaits.1] at layout_eq
  | keyedMarker keyed => simp [keyed] at layout_eq
  | keyedSample keyed => simp [keyed] at layout_eq
  | namedMarker notKeyed ready isMarker known => simpa using roles.series_eq
  | namedSample notKeyed ready isOther placed named isNumber finite =>
      have listed := roles.coherent.series_listed _ named
      have agrees := roles.coherent.table_wellFormed.agrees
      simpa [agrees.addSeries_of_mem listed] using roles.series_eq

theorem ListsRoles.of_readContent {line : String} (roles : reading.ListsRoles)
    (read : reading.readContent (Text.trim line) = .ok next) : next.ListsRoles := by
  rw [readContent_eq_ok_iff, settle_of_ne_auto (by simp [roles.layout_eq])] at read
  exact roles.of_reads read

/-- Two readings with the same registers, of which the second has read the legend. -/
def IsBehindLegend (reading behind : Reading) : Prop :=
  behind = reading.behindLegend

theorem markedSeries_alike (roles : reading.ListsRoles) (second : Option String) :
    EndAlike LineFault.Corresponds Eq (reading.markedSeries second)
      (reading.behindLegend.markedSeries second) := by
  rw [markedSeries.eq_def, markedSeries.eq_def]
  cases second with
  | none =>
      simp only [roles.layout_eq, behindLegend]
      exact .ok rfl
  | some series =>
      have known : reading.table.containsSeries series = Layout.roles.contains series := by
        rw [Bool.eq_iff_iff, roles.coherent.table_wellFormed.agrees, roles.series_eq,
          List.contains_iff_mem]
      simp only [roles.layout_eq, behindLegend, known]
      split
      next isRole => exact .ok rfl
      next notRole => exact .error (.series series)

theorem readMarker_alike (roles : reading.ListsRoles) (fields : List String) :
    EndAlike LineFault.Corresponds IsBehindLegend (reading.readMarker fields)
      (reading.behindLegend.readMarker fields) := by
  have same_count : reading.behindLegend.layout.markerFields = reading.layout.markerFields := by
    simp [behindLegend, roles.layout_eq, Layout.markerFields]
  have wrong_count : LineFault.Corresponds (.fieldCount reading.layout.markerFields)
      (.fieldCount reading.layout.markerFields) := .same (by simp) (by simp)
  rw [readMarker.eq_def, readMarker.eq_def, same_count]
  split
  next => exact .error wrong_count
  next =>
      cases fields with
      | nil => exact .error wrong_count
      | cons benchmark rest =>
          refine (markedSeries_alike roles rest.head?).bind ?_
          rintro series _ rfl
          exact .ok rfl

theorem sampleValue_alike (text : String) :
    EndAlike LineFault.Corresponds Eq (sampleValue text) (sampleValue text) := by
  rw [sampleValue]
  split
  next => exact .error (.same (by simp) (by simp))
  next value _ =>
      split
      next => exact .ok rfl
      next => exact .error (.same (by simp) (by simp))

theorem sampleParts_alike (roles : reading.ListsRoles) (content : String) :
    EndAlike LineFault.Corresponds Eq (reading.sampleParts content)
      (reading.behindLegend.sampleParts content) := by
  rw [sampleParts.eq_def, sampleParts.eq_def]
  simp only [roles.layout_eq, behindLegend]
  cases reading.series with
  | none => exact .error (.same (by simp) (by simp))
  | some series => exact .ok rfl

theorem readSample_alike (roles : reading.ListsRoles) (content : String) :
    EndAlike LineFault.Corresponds IsBehindLegend (reading.readSample content)
      (reading.behindLegend.readSample content) := by
  have same_benchmark : reading.behindLegend.benchmark = reading.benchmark := rfl
  rw [readSample, readSample, same_benchmark]
  cases reading.benchmark with
  | none => exact .error (.same (by simp) (by simp))
  | some benchmark =>
      refine (sampleParts_alike roles content).bind ?_
      rintro ⟨series, text⟩ _ rfl
      refine (sampleValue_alike text).bind ?_
      rintro value _ rfl
      exact .ok rfl

/-- A line does the same with and without the legend. -/
theorem readContent_alike (roles : reading.ListsRoles) (content : String) :
    EndAlike LineFault.Corresponds IsBehindLegend (reading.readContent content)
      (reading.behindLegend.readContent content) := by
  have settled : reading.layout ≠ .auto := by simp [roles.layout_eq]
  have settledBehind : reading.behindLegend.layout ≠ .auto := by simp [behindLegend]
  have ready : ¬(reading.layout = .headered ∧ reading.legendRead = false) := by
    simp [roles.layout_eq]
  have readyBehind : ¬(reading.behindLegend.layout = .headered ∧
      reading.behindLegend.legendRead = false) := by
    simp [behindLegend]
  rw [readContent, readContent, settle_of_ne_auto settled, settle_of_ne_auto settledBehind,
    if_neg ready, if_neg readyBehind]
  split
  next => exact readMarker_alike roles _
  next => exact readSample_alike roles content

end Reading

/-- An error of a headerless file and the error behind a legend in front of it: the same line, which
now has the next number, with a fault that corresponds. -/
inductive Error.IsOneLineOn : Error → Error → Prop
  | format {number : Nat} {content : String} {fault fault' : LineFault}
      (corresponds : fault.Corresponds fault') :
      IsOneLineOn (.format number content fault) (.format (number + 1) content fault')

namespace Reading

variable {reading : Reading}

/-- The readings with and without the legend go through the lines in step, as no line adds a series
to the two that are listed. -/
theorem readLines_alike (roles : reading.ListsRoles) (number : Nat) (lines : List String) :
    EndAlike Error.IsOneLineOn IsBehindLegend (reading.readLines number (lines.map some))
      (reading.behindLegend.readLines (number + 1) (lines.map some)) := by
  induction lines generalizing reading number with
  | nil => exact .ok rfl
  | cons line rest ih =>
      rw [List.map_cons, readLines, readLines]
      cases blank : Line.isBlank line with
      | true =>
          rw [readLine_of_blank _ _ blank, readLine_of_blank _ _ blank]
          exact ih roles (number + 1)
      | false =>
          have step := readContent_alike roles (Text.trim line)
          rw [readLine_of_written _ _ blank, readLine_of_written _ _ blank]
          cases first : reading.readContent (Text.trim line) with
          | error fault =>
              rcases step.right_of_error first with ⟨fault', stopped, corresponds⟩
              rw [stopped]
              exact .error (.format corresponds)
          | ok next =>
              rcases step.right_of_ok first with ⟨_, behind, rfl⟩
              rw [behind]
              exact ih (roles.of_readContent first) (number + 1)

end Reading

namespace Table

/-- The line that lists the two roles. -/
def rolesLegend : String := "offset native"

theorem readLine_rolesLegend (number : Nat) :
    (Reading.start .headered).readLine number (some rolesLegend) =
      .ok (Reading.start .headerless).behindLegend := by
  rfl

theorem parse_alike (text : String) :
    EndAlike Error.IsOneLineOn Eq (parse .headerless text)
      (parse .headered (rolesLegend ++ "\n" ++ text)) := by
  rw [parse, parse, Text.lines_append (by decide +kernel), List.map_cons, ofLines, ofLines,
    Reading.readLines, readLine_rolesLegend]
  refine (Reading.readLines_alike Reading.listsRoles_start 1 (Text.lines text)).map ?_
  rintro reading _ rfl
  rfl

/-- A headerless file is one behind the legend of the two roles. With this legend in front of it a
text gives the same table, or it fails at the same line, which is the next one now, with the same
content and a fault that corresponds. -/
theorem parse_headerless (text : String) :
    (∀ table, parse .headerless text = .ok table ↔
      parse .headered (rolesLegend ++ "\n" ++ text) = .ok table) ∧
    (∀ error, parse .headerless text = .error error →
      ∃ number content fault fault', error = .format number content fault ∧
        fault.Corresponds fault' ∧
        parse .headered (rolesLegend ++ "\n" ++ text) =
          .error (.format (number + 1) content fault')) ∧
    ∀ error, parse .headered (rolesLegend ++ "\n" ++ text) = .error error →
      ∃ number content fault fault', error = .format (number + 1) content fault' ∧
        fault.Corresponds fault' ∧
        parse .headerless text = .error (.format number content fault) := by
  have alike := parse_alike text
  refine ⟨fun table => alike.eq_ok_iff, ?_, ?_⟩
  · intro error failed
    rcases alike.right_of_error failed with ⟨errorBehind, failedBehind, oneLineOn⟩
    cases oneLineOn with
    | format corresponds => exact ⟨_, _, _, _, rfl, corresponds, failedBehind⟩
  · intro error failed
    rcases alike.left_of_error failed with ⟨errorBefore, failedBefore, oneLineOn⟩
    cases oneLineOn with
    | format corresponds => exact ⟨_, _, _, _, rfl, corresponds, failedBefore⟩

/-- A marker that names no role, behind a blank line. -/
theorem parse_headerless_of_unknown_role :
    parse .headerless "# b offset\n1\n\n # b other\n" =
        .error (.format 4 "# b other" (.unknownRole "other")) ∧
      parse .headered (rolesLegend ++ "\n" ++ "# b offset\n1\n\n # b other\n") =
        .error (.format 5 "# b other" (.notInLegend "other")) := by
  have failed : parse .headerless "# b offset\n1\n\n # b other\n" =
      .error (.format 4 "# b other" (.unknownRole "other")) := by rfl
  rcases (parse_headerless "# b offset\n1\n\n # b other\n").2.1 _ failed with
    ⟨_, _, _, _, same, corresponds, failedBehind⟩
  cases same
  cases corresponds with
  | series => exact ⟨failed, failedBehind⟩
  | same notRole => exact absurd rfl (notRole "other")

end Table

end SampleChart
