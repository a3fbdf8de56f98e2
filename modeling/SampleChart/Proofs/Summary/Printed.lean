import SampleChart.Proofs.Json.Printed
import SampleChart.Summary.Document

/-!
# What a summary is printed as

The value that a summary is printed as is read as this summary if its numbers are finite, and as
nothing at all if one of them is not: `null` stands for such a number, where a number has to be.
-/

namespace SampleChart

open Json (Value)

/-- The numbers of an error bar. -/
def ErrorBar.numbers (error : ErrorBar) : List Float :=
  [error.lower, error.upper]

/-- The mean and the numbers of the error bar. -/
def Aggregate.numbers (aggregate : Aggregate) : List Float :=
  aggregate.mean :: aggregate.error.elim [] ErrorBar.numbers

def SeriesSummary.numbers (series : SeriesSummary) : List Float :=
  series.entries.flatMap (·.aggregate.numbers)

/-- All means of a summary and the numbers of all error bars. -/
def Summary.numbers (summary : Summary) : List Float :=
  summary.results.flatMap (·.numbers)

/-- Whether every count of samples fits 64 bits. -/
def Summary.CountsFit (summary : Summary) : Prop :=
  ∀ series ∈ summary.results, ∀ entry ∈ series.entries, entry.samples < 2 ^ 64

/-- Whether every number is finite. -/
def AllFinite (numbers : List Float) : Prop :=
  ∀ number ∈ numbers, number.isFinite = true

instance : DecidablePred AllFinite := fun _ => List.decidableBAll _ _

/-- The numbers of some things are all finite if those of each are. -/
theorem allFinite_flatMap {α : Type} {items : List α} {numbers : α → List Float} :
    AllFinite (items.flatMap numbers) ↔ ∀ item ∈ items, AllFinite (numbers item) := by
  simp only [AllFinite, List.mem_flatMap, forall_exists_index, and_imp]
  exact ⟨fun each item present number => each number item present,
    fun each number item present => each item present number⟩

namespace Json.Value

/-- A number that was printed is read again if it is finite. If not, it was printed as null. -/
theorem float?_asRead_real (number : Float) :
    (real number).asRead.float? = if number.isFinite then some number else none := by
  rw [asRead]
  split <;> rfl

/-- Items that are read one by one are read together if each of them is sound. -/
theorem items?_asRead {α : Type} {read : Value → Option α} {encode : α → Value} {sound : α → Prop}
    [DecidablePred sound] {items : List α}
    (each : ∀ item ∈ items, read (encode item).asRead = if sound item then some item else none) :
    (array (items.map encode)).asRead.items? read =
      if ∀ item ∈ items, sound item then some items else none := by
  rw [asRead, itemsAsRead_eq_map, List.map_map, items?]
  induction items with
  | nil => rfl
  | cons first rest ih =>
      have readRest := ih fun item present => each item (List.mem_cons_of_mem first present)
      rw [List.map_cons, List.mapM_cons, Function.comp_apply, each first (by simp), readRest]
      by_cases firstSound : sound first
      · by_cases restSound : ∀ item ∈ rest, sound item
        · rw [if_pos firstSound, if_pos restSound,
            if_pos (List.forall_mem_cons.mpr ⟨firstSound, restSound⟩)]
          rfl
        · rw [if_pos firstSound, if_neg restSound,
            if_neg fun all => restSound (List.forall_mem_cons.mp all).2]
          rfl
      · rw [if_neg firstSound, if_neg fun all => firstSound (List.forall_mem_cons.mp all).1]
        rfl

end Json.Value

theorem ErrorBar.ofJson?_asRead (error : ErrorBar) :
    ofJson? error.toJson.asRead = if AllFinite error.numbers then some error else none := by
  change (do
    let lower ← (Value.real error.lower).asRead.float?
    let upper ← (Value.real error.upper).asRead.float?
    return (⟨lower, upper⟩ : ErrorBar)) = _
  rw [Value.float?_asRead_real, Value.float?_asRead_real]
  simp only [AllFinite, numbers, List.forall_mem_cons]
  by_cases lower : error.lower.isFinite = true <;>
    by_cases upper : error.upper.isFinite = true <;> simp [lower, upper]

/-- An aggregate is found again among the fields of its entry, whatever stands before it. -/
theorem Aggregate.ofFields?_asRead (aggregate : Aggregate) (benchmark samples : Value) :
    ofFields? (Value.fieldsAsRead (("benchmark", benchmark) :: ("samples", samples) ::
      aggregate.toFields)) = if AllFinite aggregate.numbers then some aggregate else none := by
  rcases aggregate with ⟨mean, _ | error⟩
  · change (do
      let mean ← (Value.real mean).asRead.float?
      return (⟨mean, none⟩ : Aggregate)) = _
    rw [Value.float?_asRead_real]
    simp only [AllFinite, numbers, List.forall_mem_cons]
    by_cases finite : mean.isFinite = true <;> simp [finite]
  · change (do
      let mean ← (Value.real mean).asRead.float?
      return (⟨mean, some (← ErrorBar.ofJson? error.toJson.asRead)⟩ : Aggregate)) = _
    rw [Value.float?_asRead_real, ErrorBar.ofJson?_asRead]
    have split : AllFinite (numbers ⟨mean, some error⟩) ↔
        mean.isFinite = true ∧ AllFinite error.numbers := by
      simp [AllFinite, numbers]
    by_cases finite : mean.isFinite = true <;>
      by_cases errorFinite : AllFinite error.numbers <;> simp [split, finite, errorFinite]

/-- The fields of an entry can all be kept until it is known which belong to its aggregate. -/
theorem SummaryEntry.isPlain_asRead (entry : SummaryEntry) (benchmark samples : Value) :
    isPlain (Value.fieldsAsRead (("benchmark", benchmark) :: ("samples", samples) ::
      entry.aggregate.toFields)) = true := by
  have plain : ∀ field ∈ entry.aggregate.toFields, field.2.depth + entryDepth ≤ documentDepth := by
    rcases entry.aggregate with ⟨mean, _ | error⟩ <;>
      simp [Aggregate.toFields, ErrorBar.toJson, Value.depth, Value.depthOfFields, entryDepth,
        documentDepth]
  simp only [isPlain, Value.fieldsAsRead_eq_map, List.map_cons, List.all_cons, List.all_map,
    Bool.and_eq_true, List.all_eq_true, Function.comp_apply, Value.isReadable_asRead,
    Value.depth_asRead]
  refine ⟨rfl, rfl, fun field present => ?_⟩
  simp [plain field present]

/-- An entry is read again exactly if its mean and its error bar are finite. -/
theorem SummaryEntry.ofJson?_asRead (entry : SummaryEntry) :
    ofJson? entry.toJson.asRead =
      if AllFinite entry.aggregate.numbers then some entry else none := by
  have plain := isPlain_asRead entry (.string entry.benchmark) (.integer entry.samples)
  have aggregate :=
    entry.aggregate.ofFields?_asRead (.string entry.benchmark) (.integer entry.samples)
  have counted : samples? (.integer entry.samples) = some entry.samples := by
    simp [samples?]
  rw [toJson, Value.asRead, ofJson?]
  generalize fieldsEq : Value.fieldsAsRead _ = fields at *
  have benchmark : Value.required? "benchmark" fields = some (.string entry.benchmark) := by
    rw [← fieldsEq]
    rfl
  have samples : Value.required? "samples" fields = some (.integer entry.samples) := by
    rw [← fieldsEq]
    rfl
  rw [benchmark, samples]
  simp only [Option.bind_some, Value.text?, counted, plain, aggregate, Option.bind_eq_bind,
    if_true]
  by_cases finite : AllFinite entry.aggregate.numbers <;> simp [finite]

/-- A series is read again exactly if all numbers of its entries are finite. -/
theorem SeriesSummary.ofJson?_asRead (series : SeriesSummary) :
    ofJson? series.toJson.asRead = if AllFinite series.numbers then some series else none := by
  have entries :
      (Value.array (series.entries.map SummaryEntry.toJson)).asRead.items? SummaryEntry.ofJson? =
        if AllFinite series.numbers then some series.entries else none := by
    rw [Value.items?_asRead fun entry _ => entry.ofJson?_asRead]
    simp only [numbers, allFinite_flatMap]
  change (do
    return (⟨series.name, ← (Value.array (series.entries.map SummaryEntry.toJson)).asRead.items?
      SummaryEntry.ofJson?⟩ : SeriesSummary)) = _
  rw [entries]
  by_cases finite : AllFinite series.numbers <;> simp [finite]

/-- A dispersion is read again from its name. -/
theorem Dispersion.ofJson?_asRead (dispersion : Dispersion) :
    ofJson? (Value.string dispersion.name).asRead = some dispersion := by
  cases dispersion <;> rfl

theorem Summary.baseline?_asRead (baseline : Option String) :
    baseline? (baseline.elim Value.null Value.string).asRead = some baseline := by
  cases baseline <;> rfl

/-- What a summary is printed as is read as this summary if its numbers are finite. -/
theorem Summary.ofJson?_asRead (summary : Summary) :
    ofJson? summary.toJson.asRead = if AllFinite summary.numbers then some summary else none := by
  have benchmarks : (Value.array (summary.benchmarks.map Value.string)).asRead.items? Value.text? =
      some summary.benchmarks := by
    have text (name : String) :
        (Value.string name).asRead.text? = if True then some name else none := rfl
    rw [Value.items?_asRead fun name _ => text name]
    simp
  have results : (Value.array (summary.results.map SeriesSummary.toJson)).asRead.items?
      SeriesSummary.ofJson? = if AllFinite summary.numbers then some summary.results else none := by
    rw [Value.items?_asRead fun series _ => series.ofJson?_asRead]
    simp only [numbers, allFinite_flatMap]
  change ofParts? (Value.array (summary.benchmarks.map Value.string)).asRead
    (summary.baseline.elim Value.null Value.string).asRead
    (Value.string summary.dispersion.name).asRead
    (Value.array (summary.results.map SeriesSummary.toJson)).asRead = _
  rw [ofParts?, benchmarks, baseline?_asRead, Dispersion.ofJson?_asRead, results]
  by_cases finite : AllFinite summary.numbers <;> simp [finite]

open Json (ReadsBack)
open Json.Value (EachLeaf IsPrintable eachLeaf_array_iff eachLeaf_object_iff)

/-- Whether the digits of every finite number are read as this number. -/
def AllReadBack (numbers : List Float) : Prop :=
  ∀ number ∈ numbers, number.isFinite = true → ReadsBack number

theorem ErrorBar.isPrintable_toJson {error : ErrorBar} (readBack : AllReadBack error.numbers) :
    error.toJson.EachLeaf IsPrintable := by
  simp only [AllReadBack, numbers, List.forall_mem_cons] at readBack
  exact ⟨readBack.1, readBack.2.1, trivial⟩

theorem SummaryEntry.isPrintable_toJson {entry : SummaryEntry}
    (readBack : AllReadBack entry.aggregate.numbers) (fits : entry.samples < 2 ^ 64) :
    entry.toJson.EachLeaf IsPrintable := by
  have samples : (Value.integer entry.samples).EachLeaf IsPrintable := ⟨by omega, by omega⟩
  have aggregate : ∀ field ∈ entry.aggregate.toFields, field.2.EachLeaf IsPrintable := by
    simp only [AllReadBack, Aggregate.numbers, List.forall_mem_cons] at readBack
    have mean : (Value.real entry.aggregate.mean).EachLeaf IsPrintable := readBack.1
    have error : (entry.aggregate.error.elim Value.null ErrorBar.toJson).EachLeaf IsPrintable := by
      cases isError : entry.aggregate.error with
      | none => trivial
      | some error =>
          rw [isError] at readBack
          exact ErrorBar.isPrintable_toJson readBack.2
    simp only [Aggregate.toFields, List.forall_mem_cons]
    exact ⟨mean, error, by simp⟩
  rw [toJson, eachLeaf_object_iff]
  exact List.forall_mem_cons.mpr ⟨trivial, List.forall_mem_cons.mpr ⟨samples, aggregate⟩⟩

theorem SeriesSummary.isPrintable_toJson {series : SeriesSummary}
    (readBack : AllReadBack series.numbers)
    (fits : ∀ entry ∈ series.entries, entry.samples < 2 ^ 64) :
    series.toJson.EachLeaf IsPrintable := by
  have entries : (Value.array (series.entries.map SummaryEntry.toJson)).EachLeaf IsPrintable := by
    rw [eachLeaf_array_iff, List.forall_mem_map]
    intro entry present
    refine SummaryEntry.isPrintable_toJson (fun number isNumber => ?_) (fits entry present)
    exact readBack number (List.mem_flatMap.mpr ⟨entry, present, isNumber⟩)
  exact ⟨trivial, entries, trivial⟩

/-- All that a summary is printed as can be read again, if its numbers can and its counts fit. -/
theorem Summary.isPrintable_toJson {summary : Summary} (readBack : AllReadBack summary.numbers)
    (fits : summary.CountsFit) : summary.toJson.EachLeaf IsPrintable := by
  have benchmarks : (Value.array (summary.benchmarks.map Value.string)).EachLeaf IsPrintable := by
    rw [eachLeaf_array_iff, List.forall_mem_map]
    exact fun _ _ => trivial
  have baseline : (summary.baseline.elim Value.null Value.string).EachLeaf IsPrintable := by
    cases summary.baseline <;> trivial
  have results : (Value.array (summary.results.map SeriesSummary.toJson)).EachLeaf IsPrintable := by
    rw [eachLeaf_array_iff, List.forall_mem_map]
    intro series present
    refine SeriesSummary.isPrintable_toJson (fun number isNumber => ?_) (fits series present)
    exact readBack number (List.mem_flatMap.mpr ⟨series, present, isNumber⟩)
  exact ⟨benchmarks, baseline, trivial, results, trivial⟩

end SampleChart
