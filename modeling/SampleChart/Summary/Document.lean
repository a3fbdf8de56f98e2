import SampleChart.Error
import SampleChart.Json.Printer
import SampleChart.Json.Reader
import SampleChart.Summary.Basic

/-!
# Summaries as documents

A summary is kept as a JSON document. Its objects have one field for each part, and the mean and the
error bar of an entry stand in the entry itself. Where a document is read, fields that are not known
are passed over and a known field may stand only once. The baseline and an error bar may be missing,
which says the same as `null`. The document as a whole, a series and an error bar may also be
written as the array of their parts, and a dispersion as an object with its name as the only field.
An entry has to be an object that can be read in full.
-/

namespace SampleChart

open Json (Value)

/-- How deep arrays and objects may lie inside each other in a document. -/
def documentDepth : Nat := 127

/-- How many arrays and objects an entry lies in, itself included. -/
def entryDepth : Nat := 5

/-- The value of a field, if the object has it. There is no answer if the field stands twice. -/
def Json.Value.field? (name : String) (fields : List (String × Value)) :
    Option (Option Value) :=
  match fields.filter (·.1 == name) with
  | [] => some none
  | [(_, value)] => some (some value)
  | _ => none

/-- The value of a field that stands exactly once. -/
def Json.Value.required? (name : String) (fields : List (String × Value)) : Option Value :=
  (field? name fields).bind id

def Json.Value.text? : Value → Option String
  | .string text => some text
  | _ => none

/-- The double of a number. -/
def Json.Value.float? : Value → Option Float
  | .real value => some value
  | .integer value =>
      some (if value < 0 then -Float.ofNat value.natAbs else Float.ofNat value.natAbs)
  | _ => none

/-- The items of an array, each as what it is read as. -/
def Json.Value.items? {α : Type} (read : Value → Option α) : Value → Option (List α)
  | .array items => items.mapM read
  | _ => none

namespace ErrorBar

def toJson (error : ErrorBar) : Value :=
  .object [("lower", .real error.lower), ("upper", .real error.upper)]

def ofJson? : Value → Option ErrorBar
  | .array [lower, upper] => do return ⟨← lower.float?, ← upper.float?⟩
  | .object fields => do
      let lower ← (Value.required? "lower" fields).bind Value.float?
      let upper ← (Value.required? "upper" fields).bind Value.float?
      return ⟨lower, upper⟩
  | _ => none

end ErrorBar

namespace Aggregate

/-- The fields for a mean and an error bar. -/
def toFields (aggregate : Aggregate) : List (String × Value) :=
  [("mean", .real aggregate.mean),
    ("error", aggregate.error.elim Value.null ErrorBar.toJson)]

def toJson (aggregate : Aggregate) : Value :=
  .object aggregate.toFields

/-- Reads a mean and an error bar from the fields of an object. -/
def ofFields? (fields : List (String × Value)) : Option Aggregate := do
  let mean ← (Value.required? "mean" fields).bind Value.float?
  match ← Value.field? "error" fields with
  | none | some .null => return ⟨mean, none⟩
  | some value => return ⟨mean, some (← ErrorBar.ofJson? value)⟩

end Aggregate

namespace SummaryEntry

def toJson (entry : SummaryEntry) : Value :=
  .object (("benchmark", .string entry.benchmark) :: ("samples", .integer entry.samples) ::
    entry.aggregate.toFields)

def samples? : Value → Option Nat
  | .integer value => if 0 ≤ value then some value.toNat else none
  | _ => none

/-- Whether the fields of an entry besides its benchmark and its samples can be read in full and do
not lie too deep. -/
def isPlain (fields : List (String × Value)) : Bool :=
  fields.all fun (name, value) =>
    name == "benchmark" || name == "samples" ||
      (value.isReadable && value.depth + entryDepth ≤ documentDepth)

def ofJson? : Value → Option SummaryEntry
  | .object fields => do
      let benchmark ← (Value.required? "benchmark" fields).bind Value.text?
      let samples ← (Value.required? "samples" fields).bind samples?
      if isPlain fields then return ⟨benchmark, samples, ← Aggregate.ofFields? fields⟩
      else none
  | _ => none

end SummaryEntry

namespace SeriesSummary

def toJson (series : SeriesSummary) : Value :=
  .object [("name", .string series.name), ("entries", .array (series.entries.map (·.toJson)))]

/-- Reads the summary of a series from its parts. -/
def ofParts? (name entries : Value) : Option SeriesSummary := do
  return ⟨← name.text?, ← entries.items? SummaryEntry.ofJson?⟩

def ofJson? : Value → Option SeriesSummary
  | .array [name, entries] => ofParts? name entries
  | .object fields => do
      ofParts? (← Value.required? "name" fields) (← Value.required? "entries" fields)
  | _ => none

end SeriesSummary

namespace Dispersion

def ofJson? : Value → Option Dispersion
  | .string name => Named.ofName? false name
  | .object [(name, .null)] => Named.ofName? false name
  | _ => Option.none

end Dispersion

namespace Summary

def toJson (summary : Summary) : Value :=
  .object
    [("benchmarks", .array (summary.benchmarks.map Value.string)),
      ("baseline", summary.baseline.elim Value.null Value.string),
      ("dispersion", .string summary.dispersion.name),
      ("results", .array (summary.results.map (·.toJson)))]

def baseline? : Value → Option (Option String)
  | .null => some none
  | value => value.text?.map some

def ofParts? (benchmarks baseline dispersion results : Value) : Option Summary := do
  return ⟨← benchmarks.items? Value.text?, ← baseline? baseline, ← Dispersion.ofJson? dispersion,
    ← results.items? SeriesSummary.ofJson?⟩

def ofJson? : Value → Option Summary
  | .array [benchmarks, baseline, dispersion, results] =>
      ofParts? benchmarks baseline dispersion results
  | .object fields => do
      let baseline ← Value.field? "baseline" fields
      ofParts? (← Value.required? "benchmarks" fields) (baseline.getD .null)
        (← Value.required? "dispersion" fields) (← Value.required? "results" fields)
  | _ => none

/-- The document that keeps a summary. -/
def document (summary : Summary) : String :=
  summary.toJson.text Json.pretty

/-- The summary that a document keeps. -/
def ofDocument (document : String) : Except Error Summary :=
  match (Json.read document).bind ofJson? with
  | some summary => .ok summary
  | none => .error .document

end Summary

end SampleChart
