import SampleChart.Config.Basic
import SampleChart.Proofs.Table.Runs

/-!
# Tables with derived series

What a sum stores is told benchmark by benchmark: `samples?` of the new name is what `sumSamples`
makes of the parts in this benchmark, and the sum succeeds exactly if this works in all of them. A
list of sums is a chain of such steps. Each only enlarges the table, so that the parts of a sum are
still there, and unchanged, when the chain is at its end.
-/

namespace SampleChart.Table

open ChartConfig (addSums)

variable {table next result : Table} {name benchmark : String} {parts : List String}
  {derived : DerivedSeries} {sums : List DerivedSeries}

theorem sumGroups_isOk_iff {benchmarks : List String} :
    (∃ groups, table.sumGroups parts benchmarks = .ok groups) ↔
      ∀ benchmark ∈ benchmarks, ∃ samples,
        sumSamples benchmark (table.columns parts benchmark) = .ok samples := by
  induction benchmarks with
  | nil => simp [sumGroups]
  | cons first rest ih =>
      rw [List.forall_mem_cons, ← ih]
      simp only [sumGroups, bind_eq_ok_iff]
      constructor
      · rintro ⟨_, samples, ofFirst, groups, ofRest, _⟩
        exact ⟨⟨samples, ofFirst⟩, groups, ofRest⟩
      · rintro ⟨⟨samples, ofFirst⟩, groups, ofRest⟩
        exact ⟨_, samples, ofFirst, groups, ofRest, rfl⟩

/-- A benchmark that is not gone through gets no group. -/
theorem samples?_eq_none_of_sumGroups {benchmarks : List String} {groups : List Group}
    (summed : table.sumGroups parts benchmarks = .ok groups) (unlisted : benchmark ∉ benchmarks) :
    Group.samples? benchmark groups = none := by
  rw [Group.samples?, Option.map_eq_none_iff, List.find?_eq_none]
  intro group present isNamed
  have named := (sublist_of_sumGroups summed).subset (List.mem_map_of_mem present)
  rw [beq_iff_eq.mp isNamed] at named
  exact unlisted named

/-- A group of a sum has what the parts add up to in its benchmark, also where a benchmark is gone
through again. -/
theorem sumSamples_of_sumGroups {benchmarks : List String} {groups : List Group}
    (summed : table.sumGroups parts benchmarks = .ok groups) (listed : benchmark ∈ benchmarks) :
    sumSamples benchmark (table.columns parts benchmark) =
      .ok (Group.samples? benchmark groups) := by
  induction benchmarks generalizing groups with
  | nil => cases listed
  | cons first rest ih =>
      simp only [sumGroups, bind_eq_ok_iff] at summed
      rcases summed with ⟨samples, ofFirst, others, ofRest, same⟩
      rcases Except.ok.inj same with rfl
      by_cases here : benchmark = first
      · subst here
        cases samples with
        | some samples => simp [ofFirst, Group.samples?]
        | none =>
            by_cases again : benchmark ∈ rest
            · exact ih ofRest again
            · rw [ofFirst, samples?_eq_none_of_sumGroups ofRest again]
      · have inRest : benchmark ∈ rest := (List.mem_cons.mp listed).resolve_left here
        have skipped := ih ofRest inRest
        cases samples with
        | none => exact skipped
        | some samples =>
            have other : first ≠ benchmark := Ne.symm here
            simpa [Group.samples?, List.find?_cons, other] using skipped

theorem Agrees.withSum_isOk_iff (agrees : table.Agrees) :
    (∃ result, table.withSum name parts = .ok result) ↔
      name ∉ table.series ∧ (∀ part ∈ parts, part ∈ table.series) ∧
        ∀ benchmark ∈ table.benchmarks, ∃ samples,
          sumSamples benchmark (table.columns parts benchmark) = .ok samples := by
  simp only [agrees.withSum_eq_ok_iff, ← sumGroups_isOk_iff]
  constructor
  · rintro ⟨result, fresh, known, groups, summed, _⟩
    exact ⟨fresh, known, groups, summed⟩
  · rintro ⟨fresh, known, groups, summed⟩
    exact ⟨_, fresh, known, groups, summed, rfl⟩

/-- What a sum stores in a benchmark is what its parts add up to there. -/
theorem sumSamples_of_withSum (summed : table.withSum name parts = .ok result)
    (listed : benchmark ∈ table.benchmarks) :
    sumSamples benchmark (table.columns parts benchmark) =
      .ok (result.samples? name benchmark) := by
  rcases withSum_eq_ok_iff.mp summed with ⟨fresh, _, groups, sums, rfl⟩
  rw [sumSamples_of_sumGroups sums listed, samples?_withSum fresh, if_pos rfl]

theorem addSums_cons_eq_ok_iff :
    addSums table (derived :: sums) = .ok result ↔
      ∃ next, table.withSum derived.name derived.parts = .ok next ∧
        addSums next sums = .ok result :=
  bind_eq_ok_iff

theorem benchmarks_addSums (added : addSums table sums = .ok result) :
    result.benchmarks = table.benchmarks := by
  induction sums generalizing table with
  | nil => rw [Except.ok.inj added]
  | cons derived rest ih =>
      rcases addSums_cons_eq_ok_iff.mp added with ⟨next, first, others⟩
      rw [ih others, benchmarks_withSum first]

theorem WellFormed.addSums (wellFormed : table.WellFormed)
    (added : ChartConfig.addSums table sums = .ok result) : result.WellFormed := by
  induction sums generalizing table with
  | nil => exact Except.ok.inj added ▸ wellFormed
  | cons derived rest ih =>
      rcases addSums_cons_eq_ok_iff.mp added with ⟨next, first, others⟩
      exact ih (wellFormed.withSum first) others

/-- Sums bring in their names in the order in which they are given, and nothing else changes. -/
theorem enlarges_of_addSums (wellFormed : table.WellFormed)
    (added : addSums table sums = .ok result) : table.Enlarges (sums.map (·.name)) result := by
  induction sums generalizing table with
  | nil => exact Except.ok.inj added ▸ Enlarges.refl table
  | cons derived rest ih =>
      rcases addSums_cons_eq_ok_iff.mp added with ⟨next, first, others⟩
      exact (enlarges_of_withSum wellFormed first).trans (ih (wellFormed.withSum first) others)

end SampleChart.Table
