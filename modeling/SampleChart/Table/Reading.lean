import SampleChart.Decimal.Numeral
import SampleChart.Table.Basic
import SampleChart.Table.Layout
import SampleChart.Text.Blank
import SampleChart.Text.Lines

/-!
# Reading results files

A results file is read in one pass over its lines. What the lines so far say is a `Reading`: the
layout, whether the legend was read, the table, and the benchmark and series that the last marker
named. A line is trimmed first, and then it is blank, a marker, or a line of another kind: the
legend in the headered layout, a sample otherwise. A line that cannot be read ends the pass with its
number, its trimmed text and what is wrong with it.
-/

namespace SampleChart

/-- What has been read of a results file. -/
structure Reading where
  layout : Layout
  legendRead : Bool
  table : Table
  /-- The benchmark of the last marker. -/
  benchmark : Option String
  /-- The series of the last marker, which the keyed layout does without. -/
  series : Option String
  deriving Repr

namespace Reading

/-- Lists the two roles if the layout is headerless. -/
def addRoles (reading : Reading) : Reading :=
  match reading.layout with
  | .headerless => { reading with table := Layout.roles.foldl Table.addSeries reading.table }
  | _ => reading

/-- Nothing read yet. -/
def start (layout : Layout) : Reading :=
  addRoles ⟨layout, false, .empty, none, none⟩

/-- Settles an open choice of layout by the fields of a line. -/
def settle (reading : Reading) (fields : List String) : Reading :=
  match reading.layout with
  | .auto => addRoles { reading with layout := Layout.detect fields }
  | _ => reading

/-- Reads the legend, which may not look like a marker nor like a row of numbers. -/
def readLegend (reading : Reading) (fields : List String) : Except LineFault Reading :=
  if fields.head? = some Layout.marker then .error .legendExpected
  else if fields.all fun field => (Decimal.float? field).isSome then .error .sampleBeforeMarker
  else
    .ok { reading with legendRead := true, table := fields.foldl Table.addSeries reading.table }

/-- The series that a marker names behind its benchmark, in the layouts where it names one. -/
def markedSeries (reading : Reading) (second : Option String) :
    Except LineFault (Option String) :=
  match reading.layout, second with
  | .keyed, _ => .ok none
  | _, none => .ok none
  | .headerless, some role =>
      if Layout.roles.contains role then .ok (some role) else .error (.unknownRole role)
  | _, some series =>
      if reading.table.containsSeries series then .ok (some series)
      else .error (.notInLegend series)

/-- Reads a marker by the fields behind its first one. -/
def readMarker (reading : Reading) (fields : List String) : Except LineFault Reading :=
  if fields.length ≠ reading.layout.markerFields then
    .error (.fieldCount reading.layout.markerFields)
  else
    match fields with
    | [] => .error (.fieldCount reading.layout.markerFields)
    | benchmark :: rest => do
        let series ← reading.markedSeries rest.head?
        let table := reading.table.addBenchmark benchmark
        let table :=
          match series with
          | some series => table.extend series benchmark []
          | none => table
        return { reading with table, benchmark := some benchmark, series }

/-- Reads a sample that is a finite number. -/
def sampleValue (text : String) : Except LineFault Float :=
  match Decimal.float? text with
  | none => .error .notANumber
  | some value => if value.isFinite then .ok value else .error .notFinite

/-- The series that a sample belongs to and the text of its number. -/
def sampleParts (reading : Reading) (content : String) : Except LineFault (String × String) :=
  match reading.layout, reading.series with
  | .keyed, _ =>
      match Text.fields content with
      | [series, value] => .ok (series, value)
      | _ => .error .keyedSampleExpected
  | _, some series => .ok (series, content)
  | _, none => .error .sampleBeforeMarker

/-- Reads a sample. -/
def readSample (reading : Reading) (content : String) : Except LineFault Reading :=
  match reading.benchmark with
  | none => .error .sampleBeforeMarker
  | some benchmark => do
      let (series, text) ← reading.sampleParts content
      let value ← sampleValue text
      return { reading with
        table := (reading.table.addSeries series).extend series benchmark [value] }

/-- Reads a line that is trimmed and not blank. -/
def readContent (reading : Reading) (content : String) : Except LineFault Reading :=
  let fields := Text.fields content
  let reading := reading.settle fields
  if reading.layout = .headered ∧ reading.legendRead = false then reading.readLegend fields
  else if fields.head? = some Layout.marker then reading.readMarker fields.tail
  else reading.readSample content

/-- Reads the line with a number, which is `none` if the line is not UTF-8. -/
def readLine (reading : Reading) (number : Nat) : Option String → Except Error Reading
  | none => .error (.file .notUtf8)
  | some line =>
      let content := Text.trim line
      if content.isEmpty then .ok reading
      else
        match reading.readContent content with
        | .ok reading => .ok reading
        | .error fault => .error (.format number content fault)

/-- Reads lines of which the first has the number that is given. -/
def readLines (reading : Reading) (number : Nat) : List (Option String) → Except Error Reading
  | [] => .ok reading
  | line :: rest =>
      match reading.readLine number line with
      | .ok reading => reading.readLines (number + 1) rest
      | .error error => .error error

end Reading

namespace Table

/-- The table that lines say, numbered from one. -/
def ofLines (layout : Layout) (lines : List (Option String)) : Except Error Table :=
  ((Reading.start layout).readLines 1 lines).map (·.table)

/-- The table that a text says. -/
def parse (layout : Layout) (text : String) : Except Error Table :=
  ofLines layout ((Text.lines text).map some)

/-- The table that the bytes of a file say. -/
def ofBytes (layout : Layout) (bytes : ByteArray) : Except Error Table :=
  ofLines layout (Text.linesOfBytes bytes)

end Table

end SampleChart
