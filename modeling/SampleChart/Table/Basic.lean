import SampleChart.Error
import SampleChart.Statistics.Moments

/-!
# Observation tables

A table holds the samples of a results file in sheets, one for each series, and a sheet holds them
group by group, one group for each benchmark. Beside the sheets the names are listed: benchmarks in
the order in which they are first seen, series in the order of the legend or, without a legend, in
the order in which they are first seen. What makes a list longer is not always what makes a sheet or
a group, so that nothing in the type of a table says that the two go together.

A series or a benchmark may be listed without having a group, and a group may be declared without
having samples: `samples?` tells the two cases apart.
-/

namespace SampleChart

/-- The samples of a series in one benchmark. -/
structure Group where
  benchmark : String
  samples : List Float
  deriving Repr

/-- The groups of one series. -/
structure Sheet where
  series : String
  groups : List Group
  deriving Repr

/-- Raw samples by series and benchmark, and the names in their order. -/
structure Table where
  benchmarks : List String
  series : List String
  sheets : List Sheet
  deriving Repr

namespace Group

/-- The samples of the group of a benchmark, if there is one among some groups. -/
def samples? (benchmark : String) (groups : List Group) : Option (List Float) :=
  (groups.find? (·.benchmark == benchmark)).map (·.samples)

/-- Puts samples at the end of the group of a benchmark, which is opened if need be. -/
def extend (benchmark : String) (samples : List Float) : List Group → List Group
  | [] => [⟨benchmark, samples⟩]
  | group :: rest =>
      if group.benchmark == benchmark then
        { group with samples := group.samples ++ samples } :: rest
      else group :: extend benchmark samples rest

theorem samples?_extend (benchmark benchmark' : String) (samples : List Float)
    (groups : List Group) :
    samples? benchmark' (extend benchmark samples groups) =
      if benchmark' = benchmark then some ((samples? benchmark groups).getD [] ++ samples)
      else samples? benchmark' groups := by
  unfold samples?
  induction groups with
  | nil => by_cases same : benchmark' = benchmark <;> grind [extend]
  | cons group rest ih =>
      by_cases same : benchmark' = benchmark <;> by_cases here : group.benchmark = benchmark <;>
        grind [extend]

end Group

namespace Sheet

/-- The groups of a series, if it has a sheet among some sheets. -/
def groups? (series : String) (sheets : List Sheet) : Option (List Group) :=
  (sheets.find? (·.series == series)).map (·.groups)

/-- Puts samples at the end of the group of a series in a benchmark. The group is opened if need be,
and the sheet as well. -/
def extend (series benchmark : String) (samples : List Float) : List Sheet → List Sheet
  | [] => [⟨series, Group.extend benchmark samples []⟩]
  | sheet :: rest =>
      if sheet.series == series then
        { sheet with groups := Group.extend benchmark samples sheet.groups } :: rest
      else sheet :: extend series benchmark samples rest

/-- Extending changes the groups of its own series only. -/
theorem groups?_extend (series benchmark series' : String) (samples : List Float)
    (sheets : List Sheet) :
    groups? series' (extend series benchmark samples sheets) =
      if series' = series then
        some (Group.extend benchmark samples ((groups? series sheets).getD []))
      else groups? series' sheets := by
  unfold groups?
  induction sheets with
  | nil => by_cases same : series' = series <;> grind [extend]
  | cons sheet rest ih =>
      by_cases same : series' = series <;> by_cases here : sheet.series = series <;> grind [extend]

/-- A sheet behind the others is the one of its series if this had none. -/
theorem groups?_append_singleton (series : String) (sheets : List Sheet) (last : Sheet) :
    groups? series (sheets ++ [last]) =
      (groups? series sheets).or (if last.series = series then some last.groups else none) := by
  rw [groups?, groups?, List.find?_append]
  cases sheets.find? (·.series == series) with
  | some sheet => simp
  | none => by_cases here : last.series = series <;> simp [here]

end Sheet

namespace Table

/-- The table without anything in it. -/
def empty : Table := ⟨[], [], []⟩

/-- Whether a series has a sheet. -/
def containsSeries (table : Table) (series : String) : Bool :=
  table.sheets.any (·.series == series)

/-- The samples of a group, if the group was ever declared. -/
def samples? (table : Table) (series benchmark : String) : Option (List Float) :=
  (Sheet.groups? series table.sheets).bind (Group.samples? benchmark)

/-- The samples of a group, where a group that was never declared counts as empty. -/
def samplesOrNone (table : Table) (series benchmark : String) : List Float :=
  (table.samples? series benchmark).getD []

/-- The mean of a group that has samples. -/
def mean (table : Table) (series benchmark : String) : Except Error Float :=
  match Statistics.mean? (table.samplesOrNone series benchmark) with
  | some mean => .ok mean
  | none => .error (.emptySeries series benchmark)

/-- Lists a series behind the others and opens a sheet for it, unless it has one already. -/
def addSeries (table : Table) (series : String) : Table :=
  if table.containsSeries series then table
  else { table with
    series := table.series ++ [series]
    sheets := table.sheets ++ [⟨series, []⟩] }

/-- Lists a benchmark behind the others, unless it is listed already. -/
def addBenchmark (table : Table) (benchmark : String) : Table :=
  if table.benchmarks.contains benchmark then table
  else { table with benchmarks := table.benchmarks ++ [benchmark] }

/-- Puts samples at the end of a group, and declares it if need be. No name is listed by this. -/
def extend (table : Table) (series benchmark : String) (samples : List Float) : Table :=
  { table with sheets := Sheet.extend series benchmark samples table.sheets }

/-- Samples go to the end of their own group and to no other. -/
theorem samples?_extend (table : Table) (series benchmark series' benchmark' : String)
    (samples : List Float) :
    (table.extend series benchmark samples).samples? series' benchmark' =
      if series' = series ∧ benchmark' = benchmark then
        some (table.samplesOrNone series benchmark ++ samples)
      else table.samples? series' benchmark' := by
  simp only [samplesOrNone, samples?, extend, Sheet.groups?_extend]
  by_cases same : series' = series
  · subst series'
    rw [if_pos rfl, Option.bind_some, Group.samples?_extend]
    cases Sheet.groups? series table.sheets <;> simp [Group.samples?]
  · simp [same]

theorem groups?_eq_none_iff {table : Table} {series : String} :
    Sheet.groups? series table.sheets = none ↔ table.containsSeries series = false := by
  simp [Sheet.groups?, containsSeries]

/-- A sheet that is put behind the others is empty, and changes no group. -/
@[simp]
theorem samples?_addSeries (table : Table) (series series' benchmark : String) :
    (table.addSeries series).samples? series' benchmark = table.samples? series' benchmark := by
  unfold addSeries
  split
  next => rfl
  next absent =>
    have noGroups := groups?_eq_none_iff.mpr (Bool.eq_false_iff.mpr absent)
    rw [samples?, samples?, Sheet.groups?_append_singleton]
    by_cases same : series = series'
    · rw [← same, noGroups, if_pos rfl]
      rfl
    · rw [if_neg same, Option.or_none]

@[simp]
theorem samples?_addBenchmark (table : Table) (benchmark series benchmark' : String) :
    (table.addBenchmark benchmark).samples? series benchmark' =
      table.samples? series benchmark' := by
  unfold addBenchmark
  split <;> rfl

/-- Only the benchmark that is added is listed anew. -/
theorem mem_benchmarks_addBenchmark {table : Table} {benchmark benchmark' : String} :
    benchmark' ∈ (table.addBenchmark benchmark).benchmarks ↔
      benchmark' ∈ table.benchmarks ∨ benchmark' = benchmark := by
  unfold addBenchmark
  split
  next present => grind
  next => simp

/-- Two tables are the same if they list the same benchmarks and series in the same order and agree
on every group. Samples are compared as numbers: the two zeros are equal, and what is not a number
is equal to nothing. -/
def same (left right : Table) : Bool :=
  left.benchmarks == right.benchmarks && left.series == right.series &&
    left.series.all fun series =>
      left.benchmarks.all fun benchmark =>
        left.samples? series benchmark == right.samples? series benchmark

instance : BEq Table := ⟨same⟩

end Table

end SampleChart
