import SampleChart.Config.Derived
import SampleChart.Proofs.Reading.Growth
import SampleChart.Proofs.Table.Reachable
import SampleChart.Proofs.Table.Sums

/-!
# Runs of sums

A run begins with the empty table or with one that is read, and then asks for sums one after the
other. A sum that fails leaves the table as it was, so only the names in `addedBy` come in.

A table keeps its names more than once: in the list of the series and with the sheets, and in the
list of the benchmarks and with the groups. `names_agree_afterSums` says that they agree after every
run, and what is known of the samples: a series that a sum brought in has samples in all of its
groups, though they may have overflowed, and a series that was read has finite samples, though a
group may be empty.
-/

namespace SampleChart.Table

/-- The tables that a run begins with. -/
inductive Initial : Table → Prop
  | empty : Initial .empty
  | parsed {layout : Layout} {text : String} {table : Table}
      (read : parse layout text = .ok table) : Initial table
  | read {layout : Layout} {bytes : ByteArray} {table : Table}
      (read : ofBytes layout bytes = .ok table) : Initial table

/-- The table after a sum was asked for, which is the same one if the sum fails. -/
def afterSum (table : Table) (derived : DerivedSeries) : Table :=
  match table.withSum derived.name derived.parts with
  | .ok result => result
  | .error _ => table

/-- The table after sums were asked for one after the other. -/
def afterSums (table : Table) (sums : List DerivedSeries) : Table :=
  sums.foldl afterSum table

/-- The names of the sums that succeed when they are asked for one after the other. -/
def addedBy (table : Table) : List DerivedSeries → List String
  | [] => []
  | derived :: rest =>
      match table.withSum derived.name derived.parts with
      | .ok result => derived.name :: result.addedBy rest
      | .error _ => table.addedBy rest

/-- A table comes from another by bringing in series that have samples in all of their groups. -/
structure Enlarges (start : Table) (added : List String) (table : Table) : Prop where
  series_eq : table.series = start.series ++ added
  samples?_eq : ∀ series ∈ start.series, ∀ benchmark,
    table.samples? series benchmark = start.samples? series benchmark
  filled : ∀ series ∈ added, ∀ benchmark, table.samples? series benchmark ≠ some []

/-- A table is well formed and stores nothing twice. -/
structure Consistent (table : Table) : Prop extends WellFormed table, StoresOnce table

variable {start middle table result : Table} {added more : List String}

theorem Initial.grows (initial : start.Initial) : Table.empty.Grows start := by
  cases initial with
  | empty => exact .refl
  | parsed read => exact grows_of_ofLines read
  | read read => exact grows_of_ofLines read

theorem Initial.reachable (initial : start.Initial) : start.Reachable := by
  cases initial with
  | empty => exact .empty
  | parsed read => exact .parsed read
  | read read => exact .read read

theorem Initial.consistent (initial : start.Initial) : start.Consistent where
  toWellFormed := initial.reachable.wellFormed
  toStoresOnce := initial.grows.storesOnce ⟨List.nodup_nil, by simp [Table.empty]⟩

theorem Initial.isFinite (initial : start.Initial) : start.IsFinite := by
  apply initial.grows.isFinite
  intro series benchmark samples declared
  simp [samples?, Sheet.groups?, Table.empty] at declared

/-- A sum opens a sheet that is new, with a group for each benchmark at most. -/
theorem StoresOnce.withSum (once : table.StoresOnce) (distinct : table.benchmarks.Nodup)
    {name : String} {parts : List String} (summed : table.withSum name parts = .ok result) :
    result.StoresOnce := by
  rcases withSum_eq_ok_iff.mp summed with ⟨fresh, _, groups, sums, rfl⟩
  constructor
  case sheets_nodup =>
    have isNew : name ∉ table.sheets.map (·.series) := by
      rw [← containsSeries_iff_mem_sheets, fresh]
      exact Bool.false_ne_true
    rw [List.map_append]
    exact once.sheets_nodup.append (List.nodup_singleton name) (by simpa using isNew)
  case groups_nodup =>
    have ofSum := (sublist_of_sumGroups sums).nodup distinct
    exact List.forall_mem_append.mpr ⟨once.groups_nodup, by simpa using ofSum⟩

/-- A sum that succeeds keeps a table consistent. -/
theorem Consistent.withSum (consistent : table.Consistent) {name : String} {parts : List String}
    (summed : table.withSum name parts = .ok result) : result.Consistent where
  toWellFormed := consistent.toWellFormed.withSum summed
  toStoresOnce := consistent.toStoresOnce.withSum consistent.benchmarks_nodup summed

theorem Enlarges.refl (start : Table) : start.Enlarges [] start :=
  ⟨by simp, by simp, by simp⟩

theorem Enlarges.trans (first : start.Enlarges added middle)
    (second : middle.Enlarges more table) : start.Enlarges (added ++ more) table := by
  have kept : ∀ series ∈ start.series ++ added, ∀ benchmark,
      table.samples? series benchmark = middle.samples? series benchmark := by
    rw [← first.series_eq]
    exact second.samples?_eq
  constructor
  case series_eq => rw [second.series_eq, first.series_eq, List.append_assoc]
  case samples?_eq =>
    intro series listed benchmark
    rw [kept series (List.mem_append_left added listed), first.samples?_eq series listed]
  case filled =>
    intro series isAdded benchmark
    rcases List.mem_append.mp isAdded with early | late
    · rw [kept series (List.mem_append_right start.series early)]
      exact first.filled series early benchmark
    · exact second.filled series late benchmark

/-- A sum that succeeds adds its own name at the end and no other. -/
theorem enlarges_of_withSum (wellFormed : table.WellFormed) {name : String} {parts : List String}
    (summed : table.withSum name parts = .ok result) : table.Enlarges [name] result := by
  have fresh := (wellFormed.agrees.withSum_eq_ok_iff.mp summed).1
  refine ⟨series_withSum summed, ?_, ?_⟩
  · intro series listed benchmark
    have other : series ≠ name := by
      rintro rfl
      exact fresh listed
    exact samples?_withSum_of_ne summed other benchmark
  · intro series isNew
    rcases List.mem_singleton.mp isNew with rfl
    exact samples?_withSum_ne_nil summed

/-- Any number of sums keeps a table consistent, also where some of them fail. -/
theorem Consistent.afterSums (consistent : start.Consistent) (sums : List DerivedSeries) :
    (start.afterSums sums).Consistent := by
  induction sums generalizing start with
  | nil => exact consistent
  | cons derived rest ih =>
      rw [Table.afterSums, List.foldl_cons, afterSum]
      split
      next result summed => exact ih (consistent.withSum summed)
      next => exact ih consistent

/-- Any number of sums adds the names of those that succeed, in their order. -/
theorem enlarges_afterSums (wellFormed : start.WellFormed) (sums : List DerivedSeries) :
    start.Enlarges (start.addedBy sums) (start.afterSums sums) := by
  induction sums generalizing start with
  | nil => exact Enlarges.refl start
  | cons derived rest ih =>
      rw [afterSums, List.foldl_cons, afterSum, addedBy]
      split
      next result summed =>
          exact (enlarges_of_withSum wellFormed summed).trans (ih (wellFormed.withSum summed))
      next => exact ih wellFormed

/-- After every run no name is listed twice, no series has two sheets and no benchmark two groups in
a sheet. There is a sheet for each listed series and for no other, the groups belong to listed
names, the series are those of the start and those of the sums that succeeded, the groups of the
latter have samples, and the samples of the former are finite. -/
theorem names_agree_afterSums (initial : start.Initial) (sums : List DerivedSeries) :
    (start.afterSums sums).benchmarks.Nodup ∧ (start.afterSums sums).series.Nodup ∧
      ((start.afterSums sums).sheets.map (·.series)).Nodup ∧
      (∀ sheet ∈ (start.afterSums sums).sheets, (sheet.groups.map (·.benchmark)).Nodup) ∧
      (∀ series, (start.afterSums sums).containsSeries series = true ↔
        series ∈ (start.afterSums sums).series) ∧
      (∀ series benchmark, ((start.afterSums sums).samples? series benchmark).isSome →
        series ∈ (start.afterSums sums).series ∧
          benchmark ∈ (start.afterSums sums).benchmarks) ∧
      (start.afterSums sums).series = start.series ++ start.addedBy sums ∧
      (∀ series ∈ start.addedBy sums, ∀ benchmark samples,
        (start.afterSums sums).samples? series benchmark = some samples → samples ≠ []) ∧
      ∀ series ∈ start.series, ∀ benchmark samples,
        (start.afterSums sums).samples? series benchmark = some samples →
          ∀ sample ∈ samples, sample.isFinite = true := by
  have consistent := initial.consistent.afterSums sums
  have enlarges := enlarges_afterSums initial.consistent.toWellFormed sums
  refine ⟨consistent.benchmarks_nodup, consistent.series_nodup, consistent.sheets_nodup,
    consistent.groups_nodup, consistent.agrees, fun _ _ => consistent.listed_of_isSome,
    enlarges.series_eq, ?_, ?_⟩
  · rintro series isAdded benchmark _ declared rfl
    exact enlarges.filled series isAdded benchmark declared
  · intro series listed benchmark samples declared
    rw [enlarges.samples?_eq series listed] at declared
    exact initial.isFinite series benchmark samples declared

/-- The sum that succeeds overflows, and the two behind it fail: one has a name that is taken and
the other a part that is unknown. -/
theorem names_agree_after_failed_sums :
    ∃ start,
      parse .keyed "# x\na 1e308\nb 1e308\n" = .ok start ∧
        (start.afterSums
          [⟨"total", ["a", "b"]⟩, ⟨"total", ["a"]⟩, ⟨"more", ["c"]⟩]).series =
          ["a", "b", "total"] ∧
        (start.afterSums
          [⟨"total", ["a", "b"]⟩, ⟨"total", ["a"]⟩, ⟨"more", ["c"]⟩]).samples? "total" "x" ≠
          some [] := by
  have names :
      ((parse .keyed "# x\na 1e308\nb 1e308\n").toOption.map fun start =>
        (start.series, start.addedBy
          [⟨"total", ["a", "b"]⟩, ⟨"total", ["a"]⟩, ⟨"more", ["c"]⟩])) =
        some (["a", "b"], ["total"]) := by decide +kernel
  rcases exists_ok_of_toOption_map names with ⟨start, parsed, seen⟩
  rcases Prod.mk.inj seen with ⟨ofText, ofSums⟩
  have agree := names_agree_afterSums (.parsed parsed)
    [⟨"total", ["a", "b"]⟩, ⟨"total", ["a"]⟩, ⟨"more", ["c"]⟩]
  rw [ofText, ofSums] at agree
  rcases agree with ⟨_, _, _, _, _, _, series_eq, filled, _⟩
  refine ⟨start, parsed, series_eq, ?_⟩
  intro declared
  exact filled "total" (List.mem_singleton_self "total") "x" [] declared rfl

end SampleChart.Table
