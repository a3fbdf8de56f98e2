import SampleChart.Proofs.Table.WellFormed

/-!
# What a sum does to a table

A sum lists its name behind the series and stores its groups in a sheet of its own, so that every
other series keeps its groups. A benchmark gets a group only where the parts have samples, and then
they all have equally many, so that no group of a sum is empty.
-/

namespace SampleChart.Table

variable {table result : Table} {name : String} {parts : List String}

theorem length_sumRows {size : Nat} {columns : List (List Float)}
    (sameSize : ∀ column ∈ columns, column.length = size) :
    (sumRows size columns).length = size := by
  have length_foldl : ∀ rows : List Float, rows.length = size →
      (columns.foldl (List.zipWith (· + ·)) rows).length = size := by
    induction columns with
    | nil => exact fun rows enough => enough
    | cons column rest ih =>
        intro rows enough
        apply ih (fun other member => sameSize other (List.mem_cons_of_mem column member))
        rw [List.length_zipWith, enough, sameSize column List.mem_cons_self, Nat.min_self]
  exact length_foldl _ List.length_replicate

theorem sameSize_of_find? {columns : List (String × List Float)} {size : Nat}
    (noneDiffers : (columns.find? fun column => column.2.length ≠ size) = none) :
    ∀ column ∈ columns.map (·.2), column.length = size := by
  intro column member
  rcases List.mem_map.mp member with ⟨part, inColumns, rfl⟩
  simpa using List.find?_eq_none.mp noneDiffers part inColumns

/-- Where a sum has a group, all its parts have samples, and equally many of them. -/
theorem exists_size_of_sumSamples {benchmark : String} {columns : List (String × List Float)}
    {samples : List Float} (summed : sumSamples benchmark columns = .ok (some samples)) :
    ∃ size, 0 < size ∧ (∀ column ∈ columns.map (·.2), column.length = size) ∧
      samples = sumRows size (columns.map (·.2)) := by
  rw [sumSamples.eq_def] at summed
  split at summed
  next => cases summed
  next someFilled =>
      rcases columns with _ | ⟨⟨first, firstSamples⟩, rest⟩
      · cases summed
      · dsimp only at summed
        split at summed
        next => cases summed
        next noneDiffers =>
            have size := sameSize_of_find? noneDiffers
            refine ⟨firstSamples.length, ?_, size, (Option.some.inj (Except.ok.inj summed)).symm⟩
            rw [Nat.pos_iff_ne_zero]
            intro noSamples
            apply someFilled
            rw [List.all_eq_true]
            intro part inColumns
            have isEmpty := size part.2 (List.mem_map_of_mem inColumns)
            rw [noSamples, List.length_eq_zero_iff] at isEmpty
            exact List.isEmpty_iff.mpr isEmpty

theorem filled_of_sumSamples {benchmark : String} {columns : List (String × List Float)}
    {samples : List Float} (summed : sumSamples benchmark columns = .ok (some samples)) :
    samples ≠ [] := by
  rcases exists_size_of_sumSamples summed with ⟨size, positive, sameSize, rfl⟩
  rw [← List.length_pos_iff, length_sumRows sameSize]
  exact positive

/-- The groups of a sum have samples. -/
theorem filled_of_sumGroups {benchmarks : List String} {groups : List Group}
    (summed : table.sumGroups parts benchmarks = .ok groups) :
    ∀ group ∈ groups, group.samples ≠ [] := by
  induction benchmarks generalizing groups with
  | nil =>
      simp only [sumGroups, Except.ok.injEq] at summed
      simp [← summed]
  | cons benchmark rest ih =>
      simp only [sumGroups, bind_eq_ok_iff] at summed
      rcases summed with ⟨sums, ofColumns, others, restSummed, same⟩
      have filled := ih restSummed
      rcases Except.ok.inj same with rfl
      cases sums with
      | none => exact filled
      | some samples => exact List.forall_mem_cons.mpr ⟨filled_of_sumSamples ofColumns, filled⟩

theorem series_withSum (summed : table.withSum name parts = .ok result) :
    result.series = table.series ++ [name] := by
  rcases withSum_eq_ok_iff.mp summed with ⟨_, _, groups, _, rfl⟩
  rfl

theorem benchmarks_withSum (summed : table.withSum name parts = .ok result) :
    result.benchmarks = table.benchmarks := by
  rcases withSum_eq_ok_iff.mp summed with ⟨_, _, groups, _, rfl⟩
  rfl

/-- A sum leaves the groups of all other series as they are. -/
theorem samples?_withSum_of_ne (summed : table.withSum name parts = .ok result) {series : String}
    (other : series ≠ name) (benchmark : String) :
    result.samples? series benchmark = table.samples? series benchmark := by
  rcases withSum_eq_ok_iff.mp summed with ⟨fresh, _, groups, _, rfl⟩
  rw [samples?_withSum fresh, if_neg other]

/-- Where a sum has a group, the group has samples. -/
theorem samples?_withSum_ne_nil (summed : table.withSum name parts = .ok result)
    (benchmark : String) : result.samples? name benchmark ≠ some [] := by
  rcases withSum_eq_ok_iff.mp summed with ⟨fresh, _, groups, sums, rfl⟩
  rw [samples?_withSum fresh, if_pos rfl]
  intro noSamples
  rcases Option.map_eq_some_iff.mp noSamples with ⟨group, found, isEmpty⟩
  exact filled_of_sumGroups sums group (List.mem_of_find?_eq_some found) isEmpty

end SampleChart.Table
