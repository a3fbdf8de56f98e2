import SampleChart.Proofs.Table.Derivation

/-!
# The outcome of a sum

A sum fails in three ways, and `SumFaults` has a constructor for each with what has to hold before
it is the one that is reported: first the name has to be new, then every part has to be known, and
only then the numbers of samples are compared, benchmark by benchmark and each time to the first
part. A group that was never declared counts as one without samples there.

`Sums` is all that a sum that succeeds says. Its samples are told place by place: the row of a place
is added up from left to right, so that a part that is listed twice is added twice.
-/

namespace SampleChart.Table

/-- How many samples a series has in a benchmark. -/
def count (table : Table) (series benchmark : String) : Nat :=
  (table.samplesOrNone series benchmark).length

/-- All parts have the same number of samples in a benchmark. -/
def Level (table : Table) (parts : List String) (benchmark : String) : Prop :=
  ∀ part ∈ parts, ∀ other ∈ parts, table.count part benchmark = table.count other benchmark

/-- The samples that the parts have at one place, if all of them have one there. -/
def row? (table : Table) (parts : List String) (benchmark : String) (place : Nat) :
    Option (List Float) :=
  parts.mapM fun part => (table.samplesOrNone part benchmark)[place]?

/-- What is reported of a sum. -/
inductive SumFaults (table : Table) (name : String) (parts : List String) : Error → Prop
  | taken (listed : name ∈ table.series) : SumFaults table name parts (.duplicateSeries name)
  | unknown {before after : List String} {part : String} (fresh : name ∉ table.series)
      (cut : parts = before ++ part :: after) (known : ∀ earlier ∈ before, earlier ∈ table.series)
      (absent : part ∉ table.series) : SumFaults table name parts (.unknownSeries part)
  | uneven {before after between behind : List String} {benchmark first other : String}
      (fresh : name ∉ table.series) (known : ∀ part ∈ parts, part ∈ table.series)
      (cut : table.benchmarks = before ++ benchmark :: after)
      (level : ∀ earlier ∈ before, table.Level parts earlier)
      (partsCut : parts = first :: (between ++ other :: behind))
      (same : ∀ part ∈ between, table.count part benchmark = table.count first benchmark)
      (differs : table.count other benchmark ≠ table.count first benchmark) :
      SumFaults table name parts (.lengthMismatch benchmark first (table.count first benchmark)
        other (table.count other benchmark))

/-- A table comes from another by the sum of some of its series. -/
structure Sums (table : Table) (name : String) (parts : List String) (result : Table) : Prop where
  benchmarks_eq : result.benchmarks = table.benchmarks
  series_eq : result.series = table.series ++ [name]
  samples?_eq : ∀ series, series ≠ name → ∀ benchmark,
    result.samples? series benchmark = table.samples? series benchmark
  none_iff : ∀ benchmark, result.samples? name benchmark = none ↔
    ∀ part ∈ parts, table.count part benchmark = 0
  count_eq : ∀ benchmark samples, result.samples? name benchmark = some samples →
    ∀ part ∈ parts, table.count part benchmark = samples.length
  getElem?_eq : ∀ benchmark samples, result.samples? name benchmark = some samples →
    ∀ place : Nat, samples[place]? = (table.row? parts benchmark place).map (·.foldl (· + ·) (-0.0))

variable {table result : Table} {name benchmark : String} {parts : List String} {error : Error}

/-- Columns that are added up are added up place by place. -/
theorem getElem?_foldl_zipWith (columns : List (List Float)) (start : List Float) (place : Nat) :
    (columns.foldl (List.zipWith (· + ·)) start)[place]? =
      start[place]?.bind fun first =>
        (columns.mapM (·[place]?)).map (·.foldl (· + ·) first) := by
  induction columns generalizing start with
  | nil => simp
  | cons column rest ih =>
      rw [List.foldl_cons, ih, List.getElem?_zipWith, List.mapM_cons]
      cases start[place]? <;> cases column[place]? <;> cases rest.mapM (·[place]?) <;> rfl

theorem getElem?_sumRows {size : Nat} {columns : List (List Float)} (nonempty : columns ≠ [])
    (sameSize : ∀ column ∈ columns, column.length = size) (place : Nat) :
    (sumRows size columns)[place]? =
      (columns.mapM (·[place]?)).map (·.foldl (· + ·) (-0.0)) := by
  rw [sumRows, getElem?_foldl_zipWith, List.getElem?_replicate]
  by_cases inside : place < size
  · rw [if_pos inside, Option.bind_some]
  · rcases List.exists_cons_of_ne_nil nonempty with ⟨column, rest, rfl⟩
    have outside : column[place]? = none := by
      rw [List.getElem?_eq_none_iff, sameSize column List.mem_cons_self]
      omega
    rw [if_neg inside, Option.bind_none, List.mapM_cons, outside]
    rfl

theorem map_columns (table : Table) (parts : List String) (benchmark : String) :
    (table.columns parts benchmark).map (·.2) =
      parts.map fun part => table.samplesOrNone part benchmark := by
  simp [columns]

theorem row?_eq_mapM (table : Table) (parts : List String) (benchmark : String) (place : Nat) :
    table.row? parts benchmark place =
      ((table.columns parts benchmark).map (·.2)).mapM (·[place]?) := by
  rw [map_columns, List.mapM_map]
  rfl

theorem find?_columns (table : Table) (first : String) (rest : List String) (benchmark : String) :
    ((table.columns (first :: rest) benchmark).find? fun (_, samples) =>
        samples.length ≠ (table.samplesOrNone first benchmark).length) =
      (rest.find? fun part => table.count part benchmark ≠ table.count first benchmark).map
        fun part => (part, table.samplesOrNone part benchmark) := by
  simp only [columns, List.map_cons, List.find?_cons, ne_eq, not_true_eq_false, decide_false,
    List.find?_map]
  rfl

theorem all_isEmpty_columns :
    ((table.columns parts benchmark).all fun (_, samples) => samples.isEmpty) = true ↔
      ∀ part ∈ parts, table.count part benchmark = 0 := by
  simp [columns, count]

theorem sumSamples_cons (table : Table) (first : String) (rest : List String)
    (benchmark : String) :
    sumSamples benchmark (table.columns (first :: rest) benchmark) =
      if ∀ part ∈ first :: rest, table.count part benchmark = 0 then .ok none
      else
        match rest.find? fun part => table.count part benchmark ≠ table.count first benchmark with
        | some other =>
            .error (.lengthMismatch benchmark first (table.count first benchmark) other
              (table.count other benchmark))
        | none =>
            .ok (some (sumRows (table.count first benchmark)
              ((table.columns (first :: rest) benchmark).map (·.2)))) := by
  have found := table.find?_columns first rest benchmark
  have start : table.columns (first :: rest) benchmark =
      (first, table.samplesOrNone first benchmark) :: table.columns rest benchmark := rfl
  rw [sumSamples.eq_def]
  simp only [all_isEmpty_columns]
  split
  next => rfl
  next =>
    rw [start] at found ⊢
    simp only [found]
    cases rest.find? fun part => table.count part benchmark ≠ table.count first benchmark <;> rfl

/-- The parts cannot be added up exactly if one of them differs from the first in size. -/
theorem sumSamples_eq_error_iff :
    sumSamples benchmark (table.columns parts benchmark) = .error error ↔
      ∃ first between other behind, parts = first :: (between ++ other :: behind) ∧
        (∀ part ∈ between, table.count part benchmark = table.count first benchmark) ∧
        table.count other benchmark ≠ table.count first benchmark ∧
        error = .lengthMismatch benchmark first (table.count first benchmark) other
          (table.count other benchmark) := by
  cases parts with
  | nil => simp [columns, sumSamples]
  | cons first rest =>
      rw [sumSamples_cons]
      constructor
      · intro failed
        split at failed
        next => cases failed
        next =>
          split at failed
          next other found =>
            rcases List.find?_eq_some_iff_append.mp found with ⟨differs, between, behind, rfl, same⟩
            refine ⟨first, between, other, behind, rfl, ?_, of_decide_eq_true differs,
              (Except.error.inj failed).symm⟩
            intro part isPart
            simpa using same part isPart
          next => cases failed
      · rintro ⟨_, between, other, behind, partsCut, same, differs, rfl⟩
        rcases List.cons.inj partsCut with ⟨rfl, rfl⟩
        have found : (between ++ other :: behind).find? (fun part =>
            table.count part benchmark ≠ table.count first benchmark) = some other := by
          apply List.find?_eq_some_iff_append.mpr
          refine ⟨decide_eq_true differs, between, behind, rfl, ?_⟩
          intro part isPart
          simpa using same part isPart
        have someFilled : ¬∀ part ∈ first :: (between ++ other :: behind),
            table.count part benchmark = 0 := by
          intro allEmpty
          apply differs
          rw [allEmpty other (by simp), allEmpty first (by simp)]
        rw [if_neg someFilled, found]

/-- The parts can be added up exactly if they have the same size. -/
theorem exists_sumSamples_iff_level :
    (∃ samples, sumSamples benchmark (table.columns parts benchmark) = .ok samples) ↔
      table.Level parts benchmark := by
  constructor
  · rintro ⟨samples, summed⟩ part isPart other isOther
    rcases List.exists_cons_of_ne_nil (List.ne_nil_of_mem isPart) with ⟨first, rest, rfl⟩
    rw [sumSamples_cons] at summed
    split at summed
    next allEmpty => rw [allEmpty part isPart, allEmpty other isOther]
    next =>
      split at summed
      next => cases summed
      next noneDiffers =>
        have asFirst : ∀ part ∈ first :: rest,
            table.count part benchmark = table.count first benchmark := by
          intro part isPart
          rcases List.mem_cons.mp isPart with rfl | inRest
          · rfl
          · simpa using List.find?_eq_none.mp noneDiffers part inRest
        rw [asFirst part isPart, asFirst other isOther]
  · intro level
    cases summed : sumSamples benchmark (table.columns parts benchmark) with
    | ok samples => exact ⟨samples, rfl⟩
    | error error =>
        rcases sumSamples_eq_error_iff.mp summed with
          ⟨first, between, other, behind, rfl, _, differs, _⟩
        exact absurd (level other (by simp) first (by simp)) differs

/-- The first benchmark in which the parts cannot be added up is the one that is reported. -/
theorem sumGroups_eq_error_iff {benchmarks : List String} :
    table.sumGroups parts benchmarks = .error error ↔
      ∃ before benchmark after, benchmarks = before ++ benchmark :: after ∧
        (∀ earlier ∈ before, table.Level parts earlier) ∧
        sumSamples benchmark (table.columns parts benchmark) = .error error := by
  induction benchmarks with
  | nil => simp [sumGroups]
  | cons first rest ih =>
      simp only [sumGroups, bind_eq_error_iff, ih]
      constructor
      · rintro (failed | ⟨samples, summed, ⟨before, benchmark, after, rfl, level, failed⟩ | ended⟩)
        · exact ⟨[], first, rest, rfl, by simp, failed⟩
        · have firstLevel := exists_sumSamples_iff_level.mp ⟨samples, summed⟩
          exact ⟨first :: before, benchmark, after, rfl,
            List.forall_mem_cons.mpr ⟨firstLevel, level⟩, failed⟩
        · rcases ended with ⟨_, _, ended⟩
          cases ended
      · rintro ⟨before, benchmark, after, cut, level, failed⟩
        rcases List.cons_eq_append_iff.mp cut with ⟨rfl, same⟩ | ⟨others, rfl, restCut⟩
        · rcases List.cons.inj same with ⟨rfl, rfl⟩
          exact Or.inl failed
        · have levels := List.forall_mem_cons.mp level
          rcases exists_sumSamples_iff_level.mpr levels.1 with ⟨samples, summed⟩
          exact Or.inr ⟨samples, summed, Or.inl
            ⟨others, benchmark, after, restCut, levels.2, failed⟩⟩

theorem Agrees.withSum_isOk_iff_level (agrees : table.Agrees) :
    (∃ result, table.withSum name parts = .ok result) ↔
      name ∉ table.series ∧ (∀ part ∈ parts, part ∈ table.series) ∧
        ∀ benchmark ∈ table.benchmarks, table.Level parts benchmark := by
  simp only [agrees.withSum_isOk_iff, exists_sumSamples_iff_level]

theorem Agrees.withSum_eq_error_iff (agrees : table.Agrees) :
    table.withSum name parts = .error error ↔ table.SumFaults name parts error := by
  rw [Table.withSum]
  constructor
  · intro failed
    split at failed
    next taken =>
      rcases Except.error.inj failed with rfl
      exact .taken ((agrees name).mp taken)
    next free =>
      have fresh : name ∉ table.series := fun listed => free ((agrees name).mpr listed)
      split at failed
      next part missing =>
        rcases Except.error.inj failed with rfl
        rcases List.find?_eq_some_iff_append.mp missing with ⟨absent, before, after, cut, known⟩
        refine .unknown fresh cut ?_ ?_
        · intro earlier isEarlier
          simpa [agrees _] using known earlier isEarlier
        · simpa [agrees.contains_eq_false_iff] using absent
      next allKnown =>
        have known : ∀ part ∈ parts, part ∈ table.series := by
          simpa [agrees _] using allKnown
        rcases bind_eq_error_iff.mp failed with failed | ⟨_, _, ended⟩
        · rcases sumGroups_eq_error_iff.mp failed with
            ⟨before, benchmark, after, cut, level, failed⟩
          rcases sumSamples_eq_error_iff.mp failed with
            ⟨first, between, other, behind, partsCut, same, differs, rfl⟩
          exact .uneven fresh known cut level partsCut same differs
        · cases ended
  · intro faults
    cases faults with
    | taken listed => rw [if_pos ((agrees name).mpr listed)]
    | @unknown before after part fresh cut known absent =>
        have missing : (parts.find? fun part => !table.containsSeries part) = some part := by
          apply List.find?_eq_some_iff_append.mpr
          refine ⟨by simpa [agrees.contains_eq_false_iff] using absent, before, after, cut, ?_⟩
          intro earlier isEarlier
          simpa [agrees _] using known earlier isEarlier
        rw [if_neg (by simpa [agrees name] using fresh), missing]
    | uneven fresh known cut level partsCut same differs =>
        have allKnown : (parts.find? fun part => !table.containsSeries part) = none := by
          simpa [agrees _] using known
        rw [if_neg (by simpa [agrees name] using fresh), allKnown]
        apply bind_eq_error_iff.mpr
        refine Or.inl (sumGroups_eq_error_iff.mpr ⟨_, _, _, cut, level, ?_⟩)
        exact sumSamples_eq_error_iff.mpr ⟨_, _, _, _, partsCut, same, differs, rfl⟩

theorem sumSamples_eq_none_iff :
    sumSamples benchmark (table.columns parts benchmark) = .ok none ↔
      ∀ part ∈ parts, table.count part benchmark = 0 := by
  constructor
  · intro summed part isPart
    rcases List.exists_cons_of_ne_nil (List.ne_nil_of_mem isPart) with ⟨first, rest, rfl⟩
    rw [sumSamples_cons] at summed
    split at summed
    next allEmpty => exact allEmpty part isPart
    next => split at summed <;> cases summed
  · intro allEmpty
    rw [sumSamples.eq_def, if_pos (all_isEmpty_columns.mpr allEmpty)]

theorem count_eq_zero_of_unlisted (wellFormed : table.WellFormed)
    (unlisted : benchmark ∉ table.benchmarks) (series : String) :
    table.count series benchmark = 0 := by
  have absent := wellFormed.samples?_eq_none fun named : series ∈ table.series ∧ _ =>
    unlisted named.2
  rw [count, samplesOrNone, absent, Option.getD_none, List.length_nil]

/-- In every benchmark, also where the table lists none, a sum stores what its parts add up to. -/
theorem sumSamples_eq_samples? (wellFormed : table.WellFormed)
    (summed : table.withSum name parts = .ok result) (benchmark : String) :
    sumSamples benchmark (table.columns parts benchmark) =
      .ok (result.samples? name benchmark) := by
  by_cases listed : benchmark ∈ table.benchmarks
  · exact sumSamples_of_withSum summed listed
  · have absent : result.samples? name benchmark = none := by
      apply (wellFormed.withSum summed).samples?_eq_none
      intro named
      rw [benchmarks_withSum summed] at named
      exact listed named.2
    rw [absent, sumSamples_eq_none_iff]
    exact fun part _ => count_eq_zero_of_unlisted wellFormed listed part

theorem sums_of_withSum (wellFormed : table.WellFormed)
    (summed : table.withSum name parts = .ok result) : table.Sums name parts result := by
  have stored := sumSamples_eq_samples? wellFormed summed
  have sized : ∀ benchmark samples, result.samples? name benchmark = some samples →
      ∃ size, 0 < size ∧
        (∀ column ∈ (table.columns parts benchmark).map (·.2), column.length = size) ∧
        samples = sumRows size ((table.columns parts benchmark).map (·.2)) := by
    intro benchmark samples declared
    exact exists_size_of_sumSamples (by rw [stored, declared])
  constructor
  case benchmarks_eq => exact benchmarks_withSum summed
  case series_eq => exact series_withSum summed
  case samples?_eq => exact fun series other => samples?_withSum_of_ne summed other
  case none_iff =>
    intro benchmark
    rw [← sumSamples_eq_none_iff, stored, Except.ok.injEq]
  case count_eq =>
    intro benchmark samples declared part isPart
    rcases sized benchmark samples declared with ⟨size, _, sameSize, rfl⟩
    rw [length_sumRows sameSize]
    apply sameSize
    rw [map_columns]
    exact List.mem_map_of_mem isPart
  case getElem?_eq =>
    intro benchmark samples declared place
    rcases sized benchmark samples declared with ⟨size, _, sameSize, rfl⟩
    have nonempty : (table.columns parts benchmark).map (·.2) ≠ [] := by
      intro noColumns
      have noParts : parts = [] := by simpa [columns] using noColumns
      have absent : result.samples? name benchmark = none := by
        have ofNothing := stored benchmark
        rw [noParts] at ofNothing
        exact (Except.ok.inj ofNothing).symm
      rw [absent] at declared
      cases declared
    rw [getElem?_sumRows nonempty sameSize, row?_eq_mapM]

/-- What becomes of a sum. It fails with an error if and only if that error is the fault of the sum,
it succeeds if and only if its name is new, its parts are known and in no benchmark two of them
differ in size, and then the result has the sum as its last series and all else as before. -/
theorem withSum_outcome (reachable : table.Reachable) (name : String) (parts : List String) :
    (∀ error, table.withSum name parts = .error error ↔ table.SumFaults name parts error) ∧
      ((∃ result, table.withSum name parts = .ok result) ↔
        name ∉ table.series ∧ (∀ part ∈ parts, part ∈ table.series) ∧
          ∀ benchmark ∈ table.benchmarks, table.Level parts benchmark) ∧
      ∀ result, table.withSum name parts = .ok result → table.Sums name parts result := by
  have agrees := reachable.wellFormed.agrees
  refine ⟨fun error => agrees.withSum_eq_error_iff, agrees.withSum_isOk_iff_level, ?_⟩
  intro result summed
  exact sums_of_withSum reachable.wellFormed summed

/-- A part that is listed twice is compared with itself and with the part behind it. -/
theorem withSum_outcome_of_repeated_part :
    ∃ table result,
      parse .keyed "# x\na 1\nb 2\nb 3\n# y\na 4\n" = .ok table ∧
        table.withSum "total" ["a", "a", "b"] = .error (.lengthMismatch "x" "a" 1 "b" 2) ∧
        table.withSum "total" ["a", "a"] = .ok result ∧
        table.Sums "total" ["a", "a"] result := by
  have counts :
      ((parse .keyed "# x\na 1\nb 2\nb 3\n# y\na 4\n").toOption.map fun table =>
        ((table.series, table.benchmarks), (table.count "a" "x", table.count "b" "x"),
          (table.withSum "total" ["a", "a"]).toOption.map (·.series))) =
        some ((["a", "b"], ["x", "y"]), (1, 2), some ["a", "b", "total"]) := by decide +kernel
  rcases exists_ok_of_toOption_map counts with ⟨table, parsed, seen⟩
  simp only [Prod.mk.injEq] at seen
  rcases seen with ⟨⟨series, benchmarks⟩, ⟨ofA, ofB⟩, ofSum⟩
  rcases exists_ok_of_toOption_map ofSum with ⟨result, summed, _⟩
  have fault : table.SumFaults "total" ["a", "a", "b"] (.lengthMismatch "x" "a" 1 "b" 2) := by
    rw [← ofA, ← ofB]
    have cut : table.benchmarks = [] ++ "x" :: ["y"] := benchmarks
    have partsCut : ["a", "a", "b"] = "a" :: (["a"] ++ "b" :: []) := rfl
    exact .uneven (by simp [series]) (by simp [series]) cut (by simp) partsCut (by simp)
      (by simp [ofA, ofB])
  exact ⟨table, result, parsed,
    ((withSum_outcome (.parsed parsed) "total" ["a", "a", "b"]).1 _).mpr fault, summed,
    (withSum_outcome (.parsed parsed) "total" ["a", "a"]).2.2 result summed⟩

end SampleChart.Table
