import SampleChart.Proofs.Json.Loaded
import SampleChart.Proofs.Summary.Printed

/-!
# The document of a summary

Writing a summary as a document and reading the document gives the summary again if its numbers are
finite, and no summary otherwise. Every summary that was read from a document has finite numbers, so
writing it and reading it again changes nothing.
-/

namespace SampleChart

open Json (Value)
open Json.Value (EachLeaf IsLoaded eachLeaf_array_iff eachLeaf_object_iff)

namespace Json.Value

/-- A number that was loaded is finite, as none other is accepted. -/
theorem isFinite_of_float? {value : Value} {number : Float} (loaded : value.EachLeaf IsLoaded)
    (read : value.float? = some number) : number.isFinite = true := by
  cases value with
  | real value =>
      cases read
      exact isFinite_of_exponentAtMost loaded
  | integer value =>
      cases read
      have below : value.natAbs < 2 ^ 64 := by
        have := loaded.1
        have := loaded.2
        omega
      have finite := (exponentAtMost_ofNat below).mono (show (14 : Int) ≤ 971 by decide)
      split
      next => exact isFinite_of_exponentAtMost (exponentAtMost_neg finite)
      next => exact isFinite_of_exponentAtMost finite
  | _ => cases read

variable {fields : List (String × Value)} (loaded : (object fields).EachLeaf IsLoaded)

include loaded in
/-- What is in a field of a loaded value was loaded. -/
theorem isLoaded_of_field? {name : String} {value : Value}
    (found : field? name fields = some (some value)) : value.EachLeaf IsLoaded := by
  unfold field? at found
  split at found
  next => cases found
  next fieldName _ isField =>
    cases found
    have present : (fieldName, value) ∈ fields.filter (·.1 == name) := by simp [isField]
    exact eachLeaf_object_iff.mp loaded _ (List.mem_of_mem_filter present)
  next => cases found

include loaded in
theorem isLoaded_of_required? {name : String} {value : Value}
    (found : required? name fields = some value) : value.EachLeaf IsLoaded := by
  rcases Option.bind_eq_some_iff.mp found with ⟨_, isField, rfl⟩
  exact isLoaded_of_field? loaded isField

include loaded in
theorem isFinite_of_required? {name : String} {number : Float}
    (read : (required? name fields).bind float? = some number) : number.isFinite = true := by
  rcases Option.bind_eq_some_iff.mp read with ⟨value, found, read⟩
  exact isFinite_of_float? (isLoaded_of_required? loaded found) read

/-- What is read from an array comes from its items. -/
theorem exists_isLoaded_of_items? {α : Type} {read : Value → Option α} {value : Value}
    {results : List α} (loaded : value.EachLeaf IsLoaded) (all : value.items? read = some results) :
    ∀ result ∈ results, ∃ item, item.EachLeaf IsLoaded ∧ read item = some result := by
  cases value with
  | array items =>
      intro result present
      rcases exists_mem_of_mapM all result present with ⟨item, fromItems, isResult⟩
      exact ⟨item, eachLeaf_array_iff.mp loaded item fromItems, isResult⟩
  | _ => cases all

end Json.Value

theorem ErrorBar.allFinite_of_ofJson? {value : Value} {error : ErrorBar}
    (loaded : value.EachLeaf IsLoaded) (read : ofJson? value = some error) :
    AllFinite error.numbers := by
  have both {lower upper : Float} (lowerFinite : lower.isFinite = true)
      (upperFinite : upper.isFinite = true) : AllFinite (numbers ⟨lower, upper⟩) := by
    simp [AllFinite, numbers, lowerFinite, upperFinite]
  unfold ofJson? at read
  split at read
  next =>
    simp only [Option.bind_eq_bind, Option.bind_eq_some_iff] at read
    rcases read with ⟨lower, isLower, upper, isUpper, eq⟩
    cases eq
    exact both (Value.isFinite_of_float? loaded.1 isLower)
      (Value.isFinite_of_float? loaded.2.1 isUpper)
  next =>
    rcases Option.bind_eq_some_iff.mp read with ⟨lower, isLower, read⟩
    rcases Option.bind_eq_some_iff.mp read with ⟨upper, isUpper, eq⟩
    cases eq
    exact both (Value.isFinite_of_required? loaded isLower)
      (Value.isFinite_of_required? loaded isUpper)
  next => cases read

/-- The numbers of a loaded aggregate are finite. -/
theorem Aggregate.allFinite_of_ofFields? {fields : List (String × Value)} {aggregate : Aggregate}
    (loaded : (Value.object fields).EachLeaf IsLoaded) (read : ofFields? fields = some aggregate) :
    AllFinite aggregate.numbers := by
  rcases Option.bind_eq_some_iff.mp read with ⟨mean, isMean, read⟩
  rcases Option.bind_eq_some_iff.mp read with ⟨field, isField, read⟩
  have meanFinite := Value.isFinite_of_required? loaded isMean
  split at read
  next =>
    cases read
    simp [AllFinite, numbers, meanFinite]
  next =>
    cases read
    simp [AllFinite, numbers, meanFinite]
  next =>
    rcases Option.bind_eq_some_iff.mp read with ⟨error, isError, eq⟩
    cases eq
    have errorFinite :=
      ErrorBar.allFinite_of_ofJson? (Value.isLoaded_of_field? loaded isField) isError
    exact List.forall_mem_cons.mpr ⟨meanFinite, errorFinite⟩

/-- A count that was loaded fits into 64 bits. -/
theorem SummaryEntry.samples_lt_of_samples? {value : Value} {samples : Nat}
    (loaded : value.EachLeaf IsLoaded) (read : samples? value = some samples) :
    samples < 2 ^ 64 := by
  cases value with
  | integer count =>
      rw [samples?] at read
      split at read
      next =>
        cases read
        have := loaded.2
        omega
      next => cases read
  | _ => cases read

/-- A loaded entry has finite numbers and a count that fits. -/
theorem SummaryEntry.allFinite_of_ofJson? {value : Value} {entry : SummaryEntry}
    (loaded : value.EachLeaf IsLoaded) (read : ofJson? value = some entry) :
    AllFinite entry.aggregate.numbers ∧ entry.samples < 2 ^ 64 := by
  cases value with
  | object fields =>
      rcases Option.bind_eq_some_iff.mp read with ⟨benchmark, -, read⟩
      rcases Option.bind_eq_some_iff.mp read with ⟨samples, isSamples, read⟩
      rcases Option.bind_eq_some_iff.mp isSamples with ⟨count, isField, isSamples⟩
      split at read
      next =>
        rcases Option.bind_eq_some_iff.mp read with ⟨aggregate, isAggregate, eq⟩
        cases eq
        exact ⟨Aggregate.allFinite_of_ofFields? loaded isAggregate,
          samples_lt_of_samples? (Value.isLoaded_of_required? loaded isField) isSamples⟩
      next => cases read
  | _ => cases read

/-- The entries of a loaded series have finite numbers and counts that fit. -/
theorem SeriesSummary.allFinite_of_ofParts? {name entries : Value} {series : SeriesSummary}
    (loaded : entries.EachLeaf IsLoaded) (read : ofParts? name entries = some series) :
    ∀ entry ∈ series.entries, AllFinite entry.aggregate.numbers ∧ entry.samples < 2 ^ 64 := by
  rcases Option.bind_eq_some_iff.mp read with ⟨_, -, read⟩
  rcases Option.bind_eq_some_iff.mp read with ⟨_, areEntries, eq⟩
  cases eq
  intro entry present
  rcases Value.exists_isLoaded_of_items? loaded areEntries entry present with
    ⟨item, itemLoaded, isEntry⟩
  exact SummaryEntry.allFinite_of_ofJson? itemLoaded isEntry

theorem SeriesSummary.allFinite_of_ofJson? {value : Value} {series : SeriesSummary}
    (loaded : value.EachLeaf IsLoaded) (read : ofJson? value = some series) :
    ∀ entry ∈ series.entries, AllFinite entry.aggregate.numbers ∧ entry.samples < 2 ^ 64 := by
  unfold ofJson? at read
  split at read
  next => exact allFinite_of_ofParts? loaded.2.1 read
  next =>
    rcases Option.bind_eq_some_iff.mp read with ⟨_, -, read⟩
    rcases Option.bind_eq_some_iff.mp read with ⟨entries, isField, read⟩
    exact allFinite_of_ofParts? (Value.isLoaded_of_required? loaded isField) read
  next => cases read

/-- A loaded summary has finite numbers and counts that fit. -/
theorem Summary.allFinite_of_ofParts? {benchmarks baseline dispersion results : Value}
    {summary : Summary} (loaded : results.EachLeaf IsLoaded)
    (read : ofParts? benchmarks baseline dispersion results = some summary) :
    AllFinite summary.numbers ∧ summary.CountsFit := by
  rcases Option.bind_eq_some_iff.mp read with ⟨_, -, read⟩
  rcases Option.bind_eq_some_iff.mp read with ⟨_, -, read⟩
  rcases Option.bind_eq_some_iff.mp read with ⟨_, -, read⟩
  rcases Option.bind_eq_some_iff.mp read with ⟨list, areResults, eq⟩
  cases eq
  have each : ∀ series ∈ list, ∀ entry ∈ series.entries,
      AllFinite entry.aggregate.numbers ∧ entry.samples < 2 ^ 64 := by
    intro series present
    rcases Value.exists_isLoaded_of_items? loaded areResults series present with
      ⟨item, itemLoaded, isSeries⟩
    exact SeriesSummary.allFinite_of_ofJson? itemLoaded isSeries
  constructor
  · simp only [numbers, SeriesSummary.numbers, allFinite_flatMap]
    exact fun series present entry fromSeries => (each series present entry fromSeries).1
  · exact fun series present entry fromSeries => (each series present entry fromSeries).2

/-- The numbers of a summary that was read are finite. -/
theorem Summary.allFinite_of_ofJson? {value : Value} {summary : Summary}
    (loaded : value.EachLeaf IsLoaded) (read : ofJson? value = some summary) :
    AllFinite summary.numbers ∧ summary.CountsFit := by
  unfold ofJson? at read
  split at read
  next => exact allFinite_of_ofParts? loaded.2.2.2.1 read
  next =>
    rcases Option.bind_eq_some_iff.mp read with ⟨_, -, read⟩
    rcases Option.bind_eq_some_iff.mp read with ⟨_, -, read⟩
    rcases Option.bind_eq_some_iff.mp read with ⟨_, -, read⟩
    rcases Option.bind_eq_some_iff.mp read with ⟨results, isField, read⟩
    exact allFinite_of_ofParts? (Value.isLoaded_of_required? loaded isField) read
  next => cases read

namespace Summary

/-- A text is a document exactly if it can be read and what was read is a summary. -/
theorem ofDocument_eq_ok_iff {text : String} {summary : Summary} :
    ofDocument text = .ok summary ↔ (Json.read text).bind ofJson? = some summary := by
  unfold ofDocument
  cases (Json.read text).bind ofJson? <;> simp

/-- The document of a summary is read as this summary if its numbers are finite, and as none
otherwise. -/
theorem ofDocument_document_of_countsFit {summary : Summary}
    (readBack : AllReadBack summary.numbers) (fits : summary.CountsFit) :
    ofDocument summary.document =
      if AllFinite summary.numbers then .ok summary else .error .document := by
  have read := Value.read_text Json.isBlank_pretty (isPrintable_toJson readBack fits)
  rw [ofDocument, document, read, Option.bind_some, ofJson?_asRead]
  by_cases finite : AllFinite summary.numbers
  · rw [if_pos finite, if_pos finite]
  · rw [if_neg finite, if_neg finite]

/-- If the digits of its finite numbers are read as these numbers, a summary is kept in its document
just when all its numbers are finite, and its document is none otherwise. What was read from a
document is kept. -/
theorem ofDocument_document (summary : Summary) (readBack : AllReadBack summary.numbers) :
    (summary.CountsFit →
      (ofDocument summary.document = .ok summary ↔
        ∀ number ∈ summary.numbers, number.isFinite = true) ∧
      ((∃ number ∈ summary.numbers, number.isFinite = false) →
        ofDocument summary.document = .error .document)) ∧
      ∀ text, ofDocument text = .ok summary → ofDocument summary.document = .ok summary := by
  refine ⟨fun fits => ⟨?_, ?_⟩, fun text isSummary => ?_⟩
  · rw [ofDocument_document_of_countsFit readBack fits]
    by_cases finite : AllFinite summary.numbers
    · rw [if_pos finite]
      exact ⟨fun _ => finite, fun _ => rfl⟩
    · rw [if_neg finite]
      exact ⟨nofun, fun all => absurd all finite⟩
  · rintro ⟨number, present, notFinite⟩
    have someNotFinite : ¬ AllFinite summary.numbers := by
      intro finite
      rw [finite number present] at notFinite
      cases notFinite
    rw [ofDocument_document_of_countsFit readBack fits, if_neg someNotFinite]
  · rcases Option.bind_eq_some_iff.mp (ofDocument_eq_ok_iff.mp isSummary) with
      ⟨value, isValue, isSummary⟩
    rcases allFinite_of_ofJson? (Json.isLoaded_of_read isValue) isSummary with ⟨finite, fits⟩
    rw [ofDocument_document_of_countsFit readBack fits, if_pos finite]

/-- A summary with a series that stands twice and with names that need escapes. -/
def repeated : Summary where
  benchmarks := ["\"sort\"", "\\\t"]
  baseline := none
  dispersion := .standardError
  results :=
    [⟨"\x01", [⟨"\"sort\"", 2, ⟨1.5, some ⟨0.25, 0.5⟩⟩⟩, ⟨"\\\t", 1, ⟨1.5, none⟩⟩]⟩, ⟨"\x01", []⟩]

theorem ofDocument_document_repeated : ofDocument repeated.document = .ok repeated := by
  have readBack : AllReadBack repeated.numbers := by
    intro number present _
    change number ∈ [1.5, 0.25, 0.5, 1.5] at present
    simp only [List.mem_cons, List.not_mem_nil, or_false] at present
    rcases present with rfl | rfl | rfl | rfl <;> rfl
  have fits : repeated.CountsFit := by
    simp [CountsFit, repeated]
  have finite : ∀ number ∈ repeated.numbers, number.isFinite = true := by
    decide
  exact ((ofDocument_document repeated readBack).1 fits).1.mpr finite

end Summary

end SampleChart
