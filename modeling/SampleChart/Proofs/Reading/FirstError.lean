import SampleChart.Proofs.Reading.Growth
import SampleChart.Proofs.Text.FirstLines

/-!
# The first error of a file

A file is read in one pass that ends at the first line that cannot be read. Reading some lines and
then others is reading them all (`readLines_append`), and this settles the matter for both outcomes.
If a file can be read, then so can its first lines, and the table only grows with the lines behind
them. If it cannot, then there is one line at which it stops: the lines before it can be read, and
nothing behind it counts.
-/

namespace SampleChart

namespace Reading

variable {reading : Reading} {number : Nat} {error : Error}

theorem readLines_append (reading : Reading) (number : Nat) (earlier later : List (Option String)) :
    reading.readLines number (earlier ++ later) =
      reading.readLines number earlier >>= fun next =>
        next.readLines (number + earlier.length) later := by
  induction earlier generalizing reading number with
  | nil => rfl
  | cons line rest ih =>
      rw [List.cons_append, readLines, readLines]
      cases reading.readLine number line with
      | error fault => rfl
      | ok next =>
          have count : number + (line :: rest).length = number + 1 + rest.length := by
            rw [List.length_cons]
            omega
          rw [count]
          exact ih next (number + 1)

theorem exists_line_of_readLines_error {lines : List (Option String)}
    (failed : reading.readLines number lines = .error error) :
    ∃ earlier line later next, lines = earlier ++ line :: later ∧
      reading.readLines number earlier = .ok next ∧
      next.readLine (number + earlier.length) line = .error error := by
  induction lines generalizing reading number with
  | nil => simp [readLines] at failed
  | cons line rest ih =>
      rw [readLines] at failed
      cases step : reading.readLine number line with
      | error fault =>
          rw [step] at failed
          rcases Except.error.inj failed with rfl
          exact ⟨[], line, rest, reading, rfl, rfl, step⟩
      | ok next =>
          rw [step] at failed
          rcases ih failed with ⟨earlier, stop, later, last, cut, read, stops⟩
          have count : number + (line :: earlier).length = number + 1 + earlier.length := by
            rw [List.length_cons]
            omega
          refine ⟨line :: earlier, stop, later, last, by rw [cut, List.cons_append], ?_, ?_⟩
          · rw [readLines, step]
            exact read
          · rw [count]
            exact stops

/-- A line is refused because it is not UTF-8 or because of a fault in its text, which then comes
with the number of the line and with the text trimmed. -/
theorem fault_of_readLine_error {line : Option String}
    (failed : reading.readLine number line = .error error) :
    (line = none ∧ error = .file .notUtf8) ∨
      ∃ text fault, line = some text ∧ error = .format number (Text.trim text) fault := by
  cases line with
  | none => exact Or.inl ⟨rfl, (Except.error.inj failed).symm⟩
  | some text =>
      right
      simp only [readLine] at failed
      split at failed
      next => cases failed
      next =>
          split at failed
          next => cases failed
          next fault _ => exact ⟨text, fault, rfl, (Except.error.inj failed).symm⟩

end Reading

namespace Table

/-- A file stops with an error at the line with an index. The lines before it can be read, and every
file that opens with the same lines up to this one gives the same error. -/
structure StopsAt (layout : Layout) (bytes : ByteArray) (index : Nat) (error : Error) : Prop where
  earlier_ok : ∃ table, ofBytes layout (Text.firstLines index bytes) = .ok table
  fails : ∀ other, (Text.linesOfBytes other).take (index + 1) =
    (Text.linesOfBytes bytes).take (index + 1) → ofBytes layout other = .error error

variable {layout : Layout} {bytes : ByteArray} {error : Error}

theorem ofLines_eq_error_iff {lines : List (Option String)} :
    ofLines layout lines = .error error ↔
      (Reading.start layout).readLines 1 lines = .error error := by
  rw [ofLines]
  cases (Reading.start layout).readLines 1 lines <;> simp [Except.map]

theorem exists_grows_of_ofLines {lines : List (Option String)} {table : Table}
    (read : ofLines layout lines = .ok table) (count : Nat) :
    ∃ front, ofLines layout (lines.take count) = .ok front ∧ front.Grows table := by
  rw [ofLines, map_eq_ok_iff] at read
  rcases read with ⟨result, read, rfl⟩
  rw [← List.take_append_drop count lines, Reading.readLines_append, bind_eq_ok_iff] at read
  rcases read with ⟨next, first, others⟩
  exact ⟨next.table, map_eq_ok_iff.mpr ⟨next, first, rfl⟩, Reading.grows_of_readLines others⟩

theorem stopsAt_of_readLine_error {earlier later : List (Option String)} {line : Option String}
    {next : Reading} (cut : Text.linesOfBytes bytes = earlier ++ line :: later)
    (read : (Reading.start layout).readLines 1 earlier = .ok next)
    (stops : next.readLine (1 + earlier.length) line = .error error) :
    StopsAt layout bytes earlier.length error := by
  constructor
  case earlier_ok =>
    refine ⟨next.table, ?_⟩
    rw [ofBytes, Text.linesOfBytes_firstLines, cut, List.take_left, ofLines, read]
    rfl
  case fails =>
    intro other same
    have opens : (Text.linesOfBytes bytes).take (earlier.length + 1) = earlier ++ [line] := by
      simp [cut, List.take_append]
    rw [opens] at same
    have otherCut : Text.linesOfBytes other =
        earlier ++ line :: (Text.linesOfBytes other).drop (earlier.length + 1) := by
      rw [← List.singleton_append, ← List.append_assoc, ← same, List.take_append_drop]
    rw [ofBytes, ofLines_eq_error_iff, otherCut, Reading.readLines_append, read]
    change next.readLines (1 + earlier.length) (line :: _) = .error error
    rw [Reading.readLines, stops]

theorem exists_stopsAt_of_ofBytes_error (failed : ofBytes layout bytes = .error error) :
    ∃ index line, (Text.linesOfBytes bytes)[index]? = some line ∧
      StopsAt layout bytes index error ∧
      ((line = none ∧ error = .file .notUtf8) ∨
        ∃ text fault, line = some text ∧
          error = .format (index + 1) (Text.trim text) fault) := by
  rcases Reading.exists_line_of_readLines_error (ofLines_eq_error_iff.mp failed) with
    ⟨earlier, line, later, next, cut, read, stops⟩
  have reported := Reading.fault_of_readLine_error stops
  rw [Nat.add_comm] at reported
  exact ⟨earlier.length, line, by simp [cut], stopsAt_of_readLine_error cut read stops, reported⟩

/-- The first line that cannot be read decides, and up to it a table only grows. The first lines of
a file that can be read can be read by themselves, and give a table of which nothing is lost behind
them. A malformed line is reported with its number and its trimmed text, a line that is not UTF-8
without, and in both cases the file stops there. -/
theorem ofBytes_first_error (layout : Layout) (bytes : ByteArray) :
    (∀ table, ofBytes layout bytes = .ok table → ∀ count, ∃ front,
      ofBytes layout (Text.firstLines count bytes) = .ok front ∧
        front.benchmarks <+: table.benchmarks ∧ front.series <+: table.series ∧
        ∀ series benchmark samples, front.samples? series benchmark = some samples →
          ∃ later, table.samples? series benchmark = some later ∧ samples <+: later) ∧
    (∀ number content fault, ofBytes layout bytes = .error (.format number content fault) →
      ∃ index line, number = index + 1 ∧ (Text.linesOfBytes bytes)[index]? = some (some line) ∧
        content = Text.trim line ∧
        StopsAt layout bytes index (.format number content fault)) ∧
    (∀ fault, ofBytes layout bytes = .error (.file fault) →
      fault = .notUtf8 ∧ ∃ index, (Text.linesOfBytes bytes)[index]? = some none ∧
        StopsAt layout bytes index (.file fault)) := by
  refine ⟨?_, ?_, ?_⟩
  · intro table read count
    rcases exists_grows_of_ofLines read count with ⟨front, ofFirst, grows⟩
    rw [← Text.linesOfBytes_firstLines] at ofFirst
    exact ⟨front, ofFirst, grows.benchmarks_prefix, grows.series_prefix,
      fun _ _ _ => grows.samples_prefix⟩
  · intro number content fault failed
    rcases exists_stopsAt_of_ofBytes_error failed with
      ⟨index, line, present, stops, ⟨_, isFile⟩ | ⟨text, fault', rfl, isFormat⟩⟩
    · cases isFile
    · cases isFormat
      exact ⟨index, text, rfl, present, rfl, stops⟩
  · intro fault failed
    rcases exists_stopsAt_of_ofBytes_error failed with
      ⟨index, line, present, stops, ⟨rfl, isFile⟩ | ⟨text, fault', rfl, isFormat⟩⟩
    · cases isFile
      exact ⟨rfl, index, present, stops⟩
    · cases isFormat

/-- Of a malformed line and one that is not UTF-8 the one that comes first is reported. -/
theorem ofBytes_malformed_and_undecoded :
    (∃ index line, 4 = index + 1 ∧
      (Text.linesOfBytes ⟨"# b offset\n1\n\n x\n".toUTF8.data ++ #[0xff]⟩)[index]? =
        some (some line) ∧
      "x" = Text.trim line ∧
      StopsAt .auto ⟨"# b offset\n1\n\n x\n".toUTF8.data ++ #[0xff]⟩ index
        (.format 4 "x" .notANumber)) ∧
    ∃ index,
      (Text.linesOfBytes ⟨"# b offset\n".toUTF8.data ++ #[0xff] ++ "\nx\n".toUTF8.data⟩)[index]? =
        some none ∧
      StopsAt .auto ⟨"# b offset\n".toUTF8.data ++ #[0xff] ++ "\nx\n".toUTF8.data⟩ index
        (.file .notUtf8) := by
  constructor
  · exact (ofBytes_first_error .auto _).2.1 4 "x" .notANumber (by rfl)
  · exact ((ofBytes_first_error .auto _).2.2 .notUtf8 (by rfl)).2

end Table

end SampleChart
