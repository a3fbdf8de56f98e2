import SampleChart.Table.Basic

/-!
# Sums of series

A table can be given a further series that is the sum of others, sample by sample. In a benchmark
where no part has samples the sum has no group. Everywhere else the parts need the same number of
samples, and the first benchmark where they differ is reported with the first part and the first one
that differs from it.
-/

namespace SampleChart.Table

/-- The parts of a sum with their samples in a benchmark. -/
def columns (table : Table) (parts : List String) (benchmark : String) :
    List (String × List Float) :=
  parts.map fun part => (part, table.samplesOrNone part benchmark)

/-- The sums of the rows of columns of equal size. A sum starts from minus zero, the number that any
other number can be added to without a change. -/
def sumRows (size : Nat) (columns : List (List Float)) : List Float :=
  columns.foldl (List.zipWith (· + ·)) (List.replicate size (-0.0))

/-- The samples of a sum in a benchmark, unless no part has samples there. -/
def sumSamples (benchmark : String) (columns : List (String × List Float)) :
    Except Error (Option (List Float)) :=
  if columns.all fun (_, samples) => samples.isEmpty then .ok none
  else
    match columns with
    | [] => .ok none
    | (first, firstSamples) :: _ =>
        match columns.find? fun (_, samples) => samples.length ≠ firstSamples.length with
        | some (other, otherSamples) =>
            .error (.lengthMismatch benchmark first firstSamples.length other otherSamples.length)
        | none => .ok (some (sumRows firstSamples.length (columns.map (·.2))))

/-- The groups of a sum in some benchmarks. -/
def sumGroups (table : Table) (parts : List String) : List String → Except Error (List Group)
  | [] => .ok []
  | benchmark :: rest => do
      let samples ← sumSamples benchmark (table.columns parts benchmark)
      let groups ← table.sumGroups parts rest
      return match samples with
        | some samples => ⟨benchmark, samples⟩ :: groups
        | none => groups

/-- The table with a further series that is the sum of its parts. -/
def withSum (table : Table) (name : String) (parts : List String) : Except Error Table :=
  if table.containsSeries name then .error (.duplicateSeries name)
  else
    match parts.find? fun part => !table.containsSeries part with
    | some missing => .error (.unknownSeries missing)
    | none => do
        let groups ← table.sumGroups parts table.benchmarks
        return { table with
          series := table.series ++ [name]
          sheets := table.sheets ++ [⟨name, groups⟩] }

end SampleChart.Table
