import Mathlib.Data.List.Forall2
import SampleChart.Proofs.Table.SumOutcome
import SampleChart.Summary.Aggregation

/-!
# Positions

A marker is read by the first and the second of its fields, a sum is led by the first of its parts
and adds up the samples of one place after the other, and the means of a baseline are looked up by
the places of the benchmarks. Here these computations are written with positions: a function with a
question mark takes every element by its position in a list, and it has no answer, not even an
error, once a list is too short for a position that is asked for. `positions_in_range` says that
this happens nowhere: whatever is read, added up or aggregated, there is an answer, and it is the
one of the function without the question mark.
-/

namespace SampleChart

section Finding

variable {ε ε' α β : Type}

/-- An answer that asks for no position. -/
def answer (plain : Except ε α) : ExceptT ε Option α :=
  ExceptT.mk (some plain)

/-- The element at a position, without an answer where the list is too short for it. -/
def element (items : List α) (position : Nat) : ExceptT ε Option α :=
  ExceptT.lift items[position]?

/-- A computation by positions finds all that it asks for, and its answer is this one. -/
def Finds (byPosition : ExceptT ε Option α) (plain : Except ε α) : Prop :=
  byPosition.run = some plain

theorem finds_answer (plain : Except ε α) : Finds (answer plain) plain := rfl

theorem finds_pure (value : α) : Finds (pure value : ExceptT ε Option α) (.ok value) := rfl

theorem finds_throw (fault : ε) : Finds (throw fault : ExceptT ε Option α) (.error fault) := rfl

theorem finds_element {items : List α} {position : Nat} {value : α}
    (present : items[position]? = some value) :
    Finds (element items position : ExceptT ε Option α) (.ok value) := by
  rw [Finds, element, present]
  rfl

/-- A step that finds what it looks for can be followed by another that does, for every value that
the plain one gives. -/
theorem Finds.bind {first : ExceptT ε Option α} {plain : Except ε α}
    {next : α → ExceptT ε Option β} {plainNext : α → Except ε β} (finds : Finds first plain)
    (further : ∀ value, plain = .ok value → Finds (next value) (plainNext value)) :
    Finds (first >>= next) (plain >>= plainNext) := by
  rw [Finds] at finds
  rw [Finds, ExceptT.run_bind, finds]
  cases plain with
  | error fault => rfl
  | ok value => exact further value rfl

theorem Finds.bind_ok {first : ExceptT ε Option α} {value : α} {next : α → ExceptT ε Option β}
    {plain : Except ε β} (finds : Finds first (.ok value)) (further : Finds (next value) plain) :
    Finds (first >>= next) plain := by
  rw [Finds] at finds further
  rw [Finds, ExceptT.run_bind, finds, ← further]
  rfl

theorem Finds.mapM {next : α → ExceptT ε Option β} {items : List α} {values : List β}
    (each : List.Forall₂ (fun item value => Finds (next item) (.ok value)) items values) :
    Finds (items.mapM next) (.ok values) := by
  induction each with
  | nil => exact finds_pure []
  | cons first _ ih =>
      rw [List.mapM_cons]
      exact first.bind_ok (ih.bind_ok (finds_pure _))

end Finding

namespace Reading

/-- The series that a marker names, by the second of its fields. -/
def markedSeries? (reading : Reading) (fields : List String) :
    ExceptT LineFault Option (Option String) :=
  match reading.layout with
  | .keyed => pure none
  | .headerless => do
      let role ← element fields 1
      if Layout.roles.contains role then return some role else throw (.unknownRole role)
  | _ => do
      let series ← element fields 1
      if reading.table.containsSeries series then return some series
      else throw (.notInLegend series)

/-- Reads a marker by the first and, where the layout has two, the second of its fields. -/
def readMarker? (reading : Reading) (fields : List String) : ExceptT LineFault Option Reading :=
  if fields.length ≠ reading.layout.markerFields then
    throw (.fieldCount reading.layout.markerFields)
  else do
    let benchmark ← element fields 0
    let series ← reading.markedSeries? fields
    let table := reading.table.addBenchmark benchmark
    let table :=
      match series with
      | some series => table.extend series benchmark []
      | none => table
    return { reading with table, benchmark := some benchmark, series }

/-- Reads a line, a marker by the positions of its fields. -/
def readContent? (reading : Reading) (content : String) : ExceptT LineFault Option Reading :=
  let fields := Text.fields content
  let reading := reading.settle fields
  if reading.layout = .headered ∧ reading.legendRead = false then answer (reading.readLegend fields)
  else if fields.head? = some Layout.marker then reading.readMarker? fields.tail
  else answer (reading.readSample content)

def readLine? (reading : Reading) (number : Nat) : Option String → ExceptT Error Option Reading
  | none => throw (.file .notUtf8)
  | some line =>
      let content := Text.trim line
      if content.isEmpty then pure reading
      else (reading.readContent? content).adapt (.format number content)

def readLines? (reading : Reading) (number : Nat) :
    List (Option String) → ExceptT Error Option Reading
  | [] => pure reading
  | line :: rest => do
      let reading ← reading.readLine? number line
      reading.readLines? (number + 1) rest

variable {reading : Reading}

/-- The second field of a marker is at its position once the fields were counted. -/
theorem finds_markedSeries? {benchmark series : String} {others : List String} :
    Finds (reading.markedSeries? (benchmark :: series :: others))
      (reading.markedSeries (some series)) := by
  rw [markedSeries?, markedSeries.eq_def]
  cases layout : reading.layout with
  | keyed => exact finds_pure none
  | headerless =>
      refine (finds_element rfl).bind_ok ?_
      dsimp only
      split
      · exact finds_pure _
      · exact finds_throw _
  | auto | headered =>
      refine (finds_element rfl).bind_ok ?_
      dsimp only
      split
      · exact finds_pure _
      · exact finds_throw _

/-- The number of fields is checked before any of them is taken, and a layout whose markers have one
field asks for no second one. -/
theorem finds_readMarker? (reading : Reading) (fields : List String) :
    Finds (reading.readMarker? fields) (reading.readMarker fields) := by
  rw [readMarker?, readMarker.eq_def]
  split
  next => exact finds_throw _
  next enough =>
      rw [not_not] at enough
      rcases fields with _ | ⟨benchmark, rest⟩
      · cases layout : reading.layout <;> simp [layout, Layout.markerFields] at enough
      · refine (finds_element rfl).bind_ok (Finds.bind ?_ fun series _ => finds_pure _)
        rcases rest with _ | ⟨series, others⟩
        · have keyed : reading.layout = .keyed := by
            cases layout : reading.layout <;> simp [layout, Layout.markerFields] at enough ⊢
          rw [markedSeries?, keyed, markedSeries_keyed keyed]
          exact finds_pure none
        · exact finds_markedSeries?

/-- One line is read by positions as it is read by patterns. -/
theorem finds_readContent? (reading : Reading) (content : String) :
    Finds (reading.readContent? content) (reading.readContent content) := by
  simp only [readContent?, readContent]
  split_ifs
  · exact finds_answer _
  · exact finds_readMarker? _ _
  · exact finds_answer _

theorem finds_readLine? (reading : Reading) (number : Nat) (line : Option String) :
    Finds (reading.readLine? number line) (reading.readLine number line) := by
  cases line with
  | none => exact finds_throw _
  | some line =>
      simp only [readLine?, readLine]
      split
      · exact finds_pure _
      · have finds := finds_readContent? reading (Text.trim line)
        rw [Finds] at finds
        rw [Finds, ExceptT.run_adapt, finds]
        cases reading.readContent (Text.trim line) <;> rfl

/-- Lines are read by positions as they are read by patterns, one after the other. -/
theorem finds_readLines? (reading : Reading) (number : Nat) (lines : List (Option String)) :
    Finds (reading.readLines? number lines) (reading.readLines number lines) := by
  induction lines generalizing reading number with
  | nil => exact finds_pure _
  | cons line rest ih =>
      have step : reading.readLines number (line :: rest) =
          reading.readLine number line >>= fun next => next.readLines (number + 1) rest := by
        rw [readLines]
        cases reading.readLine number line <;> rfl
      rw [step]
      exact (finds_readLine? reading number line).bind fun next _ => ih next (number + 1)

end Reading

namespace Table

/-- The table that lines say, with every marker read by positions. -/
def ofLines? (layout : Layout) (lines : List (Option String)) : ExceptT Error Option Table := do
  let reading ← (Reading.start layout).readLines? 1 lines
  return reading.table

/-- The sum of the samples at one place of all columns, from the first column on. -/
def placeSum? (columns : List (List Float)) (place : Nat) : ExceptT Error Option Float := do
  let row ← columns.mapM fun column => element column place
  return row.foldl (· + ·) (-0.0)

/-- The samples of a sum in a benchmark, led by the first of the columns and place by place. -/
def sumSamples? (benchmark : String) (columns : List (String × List Float)) :
    ExceptT Error Option (Option (List Float)) :=
  if columns.all fun (_, samples) => samples.isEmpty then pure none
  else do
    let (first, firstSamples) ← element columns 0
    match columns.find? fun (_, samples) => samples.length ≠ firstSamples.length with
    | some (other, otherSamples) =>
        throw (.lengthMismatch benchmark first firstSamples.length other otherSamples.length)
    | none => do
        let samples ← (List.range firstSamples.length).mapM (placeSum? (columns.map (·.2)))
        return some samples

def sumGroups? (table : Table) (parts : List String) :
    List String → ExceptT Error Option (List Group)
  | [] => pure []
  | benchmark :: rest => do
      let samples ← sumSamples? benchmark (table.columns parts benchmark)
      let groups ← table.sumGroups? parts rest
      return match samples with
        | some samples => ⟨benchmark, samples⟩ :: groups
        | none => groups

def withSum? (table : Table) (name : String) (parts : List String) : ExceptT Error Option Table :=
  if table.containsSeries name then throw (.duplicateSeries name)
  else
    match parts.find? fun part => !table.containsSeries part with
    | some missing => throw (.unknownSeries missing)
    | none => do
        let groups ← table.sumGroups? parts table.benchmarks
        return { table with
          series := table.series ++ [name]
          sheets := table.sheets ++ [⟨name, groups⟩] }

/-- The means of the baseline in the order of the benchmarks, if there is a baseline. -/
def baselineMeans (table : Table) : Option String → Except Error (Option (List Float))
  | none => .ok none
  | some baseline =>
      if table.containsSeries baseline then
        (table.benchmarks.mapM (table.baselineMean baseline)).map some
      else .error (.baselineNotFound baseline none)

/-- What the means in the benchmark of a place are divided by, if they are divided. -/
def divisor? (means : Option (List Float)) (place : Nat) : ExceptT Error Option (Option Float) :=
  match means with
  | none => pure none
  | some means => do
      let mean ← element means place
      return some mean

/-- The entries of a series for benchmarks with their places. -/
def entries? (table : Table) (dispersion : Dispersion) (means : Option (List Float))
    (series : String) : List (String × Nat) → ExceptT Error Option (List SummaryEntry)
  | [] => pure []
  | (benchmark, place) :: rest =>
      match table.samples? series benchmark with
      | none => table.entries? dispersion means series rest
      | some samples => do
          let divisor ← divisor? means place
          let aggregate ← answer (table.aggregate dispersion series benchmark samples divisor)
          let entries ← table.entries? dispersion means series rest
          return ⟨benchmark, samples.length, aggregate⟩ :: entries

def results? (table : Table) (dispersion : Dispersion) (means : Option (List Float)) :
    List String → ExceptT Error Option (List SeriesSummary)
  | [] => pure []
  | series :: rest => do
      let entries ← table.entries? dispersion means series table.benchmarks.zipIdx
      let results ← table.results? dispersion means rest
      return ⟨series, entries⟩ :: results

/-- The summary of a table, with the means of the baseline looked up by the places of the
benchmarks. -/
def summarize? (table : Table) (config : ChartConfig) : ExceptT Error Option Summary := do
  let means ← answer (table.baselineMeans config.baseline)
  let results ← table.results? config.dispersion means table.series
  return ⟨table.benchmarks, config.baseline, config.dispersion, results⟩

variable {table : Table}

theorem finds_ofLines? (layout : Layout) (lines : List (Option String)) :
    Finds (ofLines? layout lines) (ofLines layout lines) := by
  have step : ofLines layout lines =
      (Reading.start layout).readLines 1 lines >>= fun reading => .ok reading.table := by
    rw [ofLines]
    cases (Reading.start layout).readLines 1 lines <;> rfl
  rw [step]
  exact (Reading.finds_readLines? _ 1 lines).bind fun reading _ => finds_pure reading.table

/-- A row of which every column has a sample is found. -/
theorem finds_row {columns : List (List Float)} {place : Nat} {row : List Float}
    (taken : columns.mapM (·[place]?) = some row) :
    Finds (columns.mapM fun column => element (ε := Error) column place) (.ok row) := by
  induction columns generalizing row with
  | nil =>
      rcases Option.some.inj taken with rfl
      exact finds_pure []
  | cons column rest ih =>
      simp only [List.mapM_cons, Option.bind_eq_bind, Option.bind_eq_some_iff] at taken
      rcases taken with ⟨sample, present, others, ofRest, same⟩
      rcases Option.some.inj same with rfl
      rw [List.mapM_cons]
      exact (finds_element present).bind_ok ((ih ofRest).bind_ok (finds_pure _))

/-- Every place of a sum has a row. -/
theorem finds_placeSum? {columns : List (List Float)} {size place : Nat} {sum : Float}
    (nonempty : columns ≠ []) (sameSize : ∀ column ∈ columns, column.length = size)
    (summed : (sumRows size columns)[place]? = some sum) :
    Finds (placeSum? columns place) (.ok sum) := by
  rw [getElem?_sumRows nonempty sameSize, Option.map_eq_some_iff] at summed
  rcases summed with ⟨row, taken, rfl⟩
  exact (finds_row taken).bind_ok (finds_pure _)

/-- Columns of one size have every place that is summed up. -/
theorem finds_sumRows {columns : List (List Float)} {size : Nat} (nonempty : columns ≠ [])
    (sameSize : ∀ column ∈ columns, column.length = size) :
    Finds ((List.range size).mapM (placeSum? columns)) (.ok (sumRows size columns)) := by
  have everyPlace : (List.range size).length = (sumRows size columns).length := by
    rw [List.length_range, length_sumRows sameSize]
  refine Finds.mapM (List.forall₂_iff_get.mpr ⟨everyPlace, fun place _ inside => ?_⟩)
  refine finds_placeSum? nonempty sameSize ?_
  rw [List.get_eq_getElem, List.get_eq_getElem, List.getElem_range]
  exact List.getElem?_eq_getElem inside

/-- The columns of a sum are led by one as soon as one of them has samples. -/
theorem finds_sumSamples? (benchmark : String) (columns : List (String × List Float)) :
    Finds (sumSamples? benchmark columns) (sumSamples benchmark columns) := by
  rw [sumSamples?, sumSamples.eq_def]
  split
  next => exact finds_pure none
  next someFilled =>
      rcases columns with _ | ⟨⟨first, firstSamples⟩, rest⟩
      · simp at someFilled
      · refine (finds_element rfl).bind_ok ?_
        dsimp only
        cases differing : ((first, firstSamples) :: rest).find? fun column =>
            column.2.length ≠ firstSamples.length with
        | some column => exact finds_throw _
        | none =>
            have sameSize := sameSize_of_find? differing
            exact (finds_sumRows (by simp) sameSize).bind_ok (finds_pure _)

/-- The columns of each benchmark have been checked to be of one size before they are summed. -/
theorem finds_sumGroups? (table : Table) (parts benchmarks : List String) :
    Finds (table.sumGroups? parts benchmarks) (table.sumGroups parts benchmarks) := by
  induction benchmarks with
  | nil => exact finds_pure []
  | cons benchmark rest ih =>
      rw [sumGroups?, sumGroups]
      exact (finds_sumSamples? benchmark _).bind fun samples _ =>
        ih.bind fun groups _ => finds_pure _

/-- A sum by positions succeeds and fails as the plain one, and always finds its parts. -/
theorem finds_withSum? (table : Table) (name : String) (parts : List String) :
    Finds (table.withSum? name parts) (table.withSum name parts) := by
  rw [withSum?, withSum]
  split
  · exact finds_throw _
  · cases parts.find? fun part => !table.containsSeries part with
    | some missing => exact finds_throw _
    | none => exact (finds_sumGroups? table parts _).bind fun groups _ => finds_pure _

/-- Benchmarks with their divisors and benchmarks with their places go together: at the place of a
benchmark stands the mean that it is divided by. -/
def Aligned (means : Option (List Float)) :
    List (String × Option Float) → List (String × Nat) → Prop :=
  List.Forall₂ fun divided placed =>
    divided.1 = placed.1 ∧ Finds (divisor? means placed.2) (.ok divided.2)

/-- Without a baseline no mean is looked up. -/
theorem aligned_without_baseline (benchmarks : List String) (first : Nat) :
    Aligned none (benchmarks.map fun benchmark => (benchmark, none)) (benchmarks.zipIdx first) := by
  induction benchmarks generalizing first with
  | nil => exact .nil
  | cons benchmark rest ih => exact .cons ⟨rfl, finds_pure none⟩ (ih (first + 1))

/-- The means of a baseline are in the order of the benchmarks, one for each. -/
theorem aligned_of_baseline (table : Table) (baseline : String) (benchmarks : List String)
    (before : List Float) :
    EndAlike Eq (fun divisors means =>
        Aligned (some (before ++ means)) divisors (benchmarks.zipIdx before.length))
      (table.divisorsFor baseline benchmarks) (benchmarks.mapM (table.baselineMean baseline)) := by
  induction benchmarks generalizing before with
  | nil => exact .ok .nil
  | cons benchmark rest ih =>
      rw [divisorsFor, List.mapM_cons]
      cases table.baselineMean baseline benchmark with
      | error fault => exact .error rfl
      | ok mean =>
          refine (ih (before ++ [mean])).bind fun divisors means aligned => .ok (.cons ?_ ?_)
          · exact ⟨rfl, (finds_element (by simp)).bind_ok (finds_pure _)⟩
          · simpa [Aligned] using aligned

/-- The means of the baseline stand at the positions of their benchmarks. -/
theorem aligned_divisors (table : Table) (baseline : Option String) :
    EndAlike Eq (fun divisors means => Aligned means divisors table.benchmarks.zipIdx)
      (table.divisors baseline) (table.baselineMeans baseline) := by
  cases baseline with
  | none => exact .ok (aligned_without_baseline table.benchmarks 0)
  | some baseline =>
      rw [divisors, baselineMeans]
      split
      · have alike := table.aligned_of_baseline baseline table.benchmarks []
        generalize table.divisorsFor baseline table.benchmarks = divisors at alike ⊢
        generalize table.benchmarks.mapM (table.baselineMean baseline) = means at alike ⊢
        cases alike with
        | ok aligned => exact .ok aligned
        | error same => exact .error same
      · exact .error rfl

/-- The entry of each benchmark finds the mean at the position of this. -/
theorem finds_entries? {means : Option (List Float)} {divisors : List (String × Option Float)}
    {places : List (String × Nat)} (aligned : Aligned means divisors places)
    (dispersion : Dispersion) (series : String) :
    Finds (table.entries? dispersion means series places)
      (table.entries dispersion series divisors) := by
  induction aligned with
  | nil => exact finds_pure []
  | @cons divided placed _ _ here _ ih =>
      rcases divided with ⟨benchmark, divisor⟩
      rcases placed with ⟨_, place⟩
      rcases here with ⟨rfl, finds⟩
      rw [entries?, entries]
      cases table.samples? series benchmark with
      | none => exact ih
      | some samples =>
          exact finds.bind_ok ((finds_answer _).bind fun aggregate _ =>
            ih.bind fun entries _ => finds_pure _)

theorem finds_results? {means : Option (List Float)} {divisors : List (String × Option Float)}
    (aligned : Aligned means divisors table.benchmarks.zipIdx) (dispersion : Dispersion)
    (series : List String) :
    Finds (table.results? dispersion means series) (table.results dispersion divisors series) := by
  induction series with
  | nil => exact finds_pure []
  | cons name rest ih =>
      rw [results?, results]
      exact (finds_entries? aligned dispersion name).bind fun entries _ =>
        ih.bind fun results _ => finds_pure _

/-- A summary by positions is the plain one, and no position is out of range. -/
theorem finds_summarize? (table : Table) (config : ChartConfig) :
    Finds (table.summarize? config) (table.summarize config) := by
  have alike := table.aligned_divisors config.baseline
  rw [summarize?, summarize]
  generalize table.divisors config.baseline = divisors at alike ⊢
  generalize table.baselineMeans config.baseline = means at alike ⊢
  cases alike with
  | error same =>
      rcases same with rfl
      exact finds_throw _
  | ok aligned =>
      exact (finds_answer _).bind_ok
        ((finds_results? aligned config.dispersion table.series).bind fun results _ =>
          finds_pure _)

end Table

/-- Every position that is asked for is there. No list of lines in any layout, no table, name and
parts of a sum, and no configuration leads to a marker with fewer fields, a sum with fewer columns,
a column with fewer samples or a baseline with fewer means than the positions reach; and what is
found by positions is what is read, added up and aggregated. -/
theorem positions_in_range :
    (∀ layout lines, (Table.ofLines? layout lines).run = some (Table.ofLines layout lines)) ∧
      (∀ (table : Table) name parts,
        (table.withSum? name parts).run = some (table.withSum name parts)) ∧
      ∀ (table : Table) config, (table.summarize? config).run = some (table.summarize config) :=
  ⟨Table.finds_ofLines?, Table.finds_withSum?, Table.finds_summarize?⟩

end SampleChart
