import SampleChart.Proofs.Table.Derivation

/-!
# The order of sums

Sums may build on one another, and each finds its parts in the table that the sums before it have
left. Even so their order decides about the order of the names alone, provided that no sum comes
before one of its parts.

No two sums are swapped to see this. The table at the end of one order is kept as the target: all
its sums hold in it at once, since no later sum touches the parts of an earlier one. Another order
then builds up a table that agrees with the target on every series that it lists, sum by sum.
-/

namespace SampleChart

namespace DerivedSeries

/-- No sum has the name of a sum behind it among its parts. -/
def InOrder (sums : List DerivedSeries) : Prop :=
  sums.Pairwise fun earlier later => later.name ∉ earlier.parts

/-- Every sum has a name that is new when it is asked for, and parts that are known by then. -/
def Buildable : List String → List DerivedSeries → Prop
  | _, [] => True
  | known, derived :: rest =>
      derived.name ∉ known ∧ (∀ part ∈ derived.parts, part ∈ known) ∧
        Buildable (known ++ [derived.name]) rest

/-- The names of sums are distinct and new, and every part is known or the name of another sum. This
does not depend on the order of the sums. -/
structure Closed (known : List String) (sums : List DerivedSeries) : Prop where
  names_nodup : (sums.map (·.name)).Nodup
  fresh : ∀ derived ∈ sums, derived.name ∉ known
  parts_named : ∀ derived ∈ sums, ∀ part ∈ derived.parts,
    part ≠ derived.name ∧ (part ∈ known ∨ part ∈ sums.map (·.name))

variable {known : List String} {sums reordered : List DerivedSeries}

theorem Closed.perm (closed : Closed known sums) (perm : sums.Perm reordered) :
    Closed known reordered where
  names_nodup := (perm.map _).nodup_iff.mp closed.names_nodup
  fresh derived present := closed.fresh derived (perm.mem_iff.mpr present)
  parts_named derived present part isPart := by
    rcases closed.parts_named derived (perm.mem_iff.mpr present) part isPart with ⟨other, named⟩
    exact ⟨other, named.imp_right (perm.map _).mem_iff.mp⟩

/-- Behind the first sum its name counts as known. -/
theorem named_cons_iff {derived : DerivedSeries} {part : String} :
    (part ∈ known ∨ part ∈ (derived :: sums).map (·.name)) ↔
      (part ∈ known ++ [derived.name] ∨ part ∈ sums.map (·.name)) := by
  rw [List.map_cons, List.mem_cons, List.mem_append, List.mem_singleton, or_assoc]

theorem Closed.tail {derived : DerivedSeries} (closed : Closed known (derived :: sums)) :
    Closed (known ++ [derived.name]) sums := by
  have distinct := List.nodup_cons.mp closed.names_nodup
  constructor
  case names_nodup => exact distinct.2
  case fresh =>
    intro later present isKnown
    rcases List.mem_append.mp isKnown with old | isFirst
    · exact closed.fresh later (List.mem_cons_of_mem derived present) old
    · have sameName : later.name = derived.name := List.mem_singleton.mp isFirst
      exact distinct.1 (List.mem_map.mpr ⟨later, present, sameName⟩)
  case parts_named =>
    intro later present part isPart
    have named := closed.parts_named later (List.mem_cons_of_mem derived present) part isPart
    exact ⟨named.1, named_cons_iff.mp named.2⟩

theorem Closed.cons {derived : DerivedSeries} (fresh : derived.name ∉ known)
    (parts_known : ∀ part ∈ derived.parts, part ∈ known)
    (closed : Closed (known ++ [derived.name]) sums) : Closed known (derived :: sums) := by
  constructor
  case names_nodup =>
    rw [List.map_cons, List.nodup_cons]
    refine ⟨?_, closed.names_nodup⟩
    intro again
    rcases List.mem_map.mp again with ⟨later, present, same⟩
    exact closed.fresh later present (List.mem_append_right known (List.mem_singleton.mpr same))
  case fresh =>
    intro sum present
    rcases List.mem_cons.mp present with rfl | isLater
    · exact fresh
    · intro isKnown
      exact closed.fresh sum isLater (List.mem_append_left _ isKnown)
  case parts_named =>
    intro sum present part isPart
    rcases List.mem_cons.mp present with rfl | isLater
    · have isKnown := parts_known part isPart
      refine ⟨?_, Or.inl isKnown⟩
      rintro rfl
      exact fresh isKnown
    · have named := closed.parts_named sum isLater part isPart
      exact ⟨named.1, named_cons_iff.mpr named.2⟩

/-- The parts of a first sum that uses no later one are known. -/
theorem Closed.parts_known {derived : DerivedSeries} (closed : Closed known (derived :: sums))
    (not_later : ∀ later ∈ sums, later.name ∉ derived.parts) :
    ∀ part ∈ derived.parts, part ∈ known := by
  intro part isPart
  rcases closed.parts_named derived List.mem_cons_self part isPart with ⟨other, isKnown | isSum⟩
  · exact isKnown
  · rcases List.mem_cons.mp isSum with isSame | isLater
    · exact absurd isSame other
    · rcases List.mem_map.mp isLater with ⟨later, present, rfl⟩
      exact absurd isPart (not_later later present)

theorem buildable_iff : Buildable known sums ↔ Closed known sums ∧ InOrder sums := by
  induction sums generalizing known with
  | nil =>
      simp only [Buildable, true_iff]
      exact ⟨⟨List.nodup_nil, by simp, by simp⟩, List.Pairwise.nil⟩
  | cons derived rest ih =>
      rw [Buildable, ih, InOrder, InOrder, List.pairwise_cons]
      constructor
      · rintro ⟨fresh, parts_known, closed, inOrder⟩
        refine ⟨closed.cons fresh parts_known, ?_, inOrder⟩
        intro later present isPart
        exact closed.fresh later present (List.mem_append_left _ (parts_known _ isPart))
      · rintro ⟨closed, not_later, inOrder⟩
        exact ⟨closed.fresh derived List.mem_cons_self, closed.parts_known not_later, closed.tail,
          inOrder⟩

theorem Buildable.perm (buildable : Buildable known sums) (perm : sums.Perm reordered)
    (inOrder : InOrder reordered) : Buildable known reordered :=
  buildable_iff.mpr ⟨(buildable_iff.mp buildable).1.perm perm, inOrder⟩

end DerivedSeries

namespace Table

open ChartConfig (addSums)
open DerivedSeries (Buildable)

/-- In every benchmark a table has the samples that the parts of a sum add up to in it. -/
def Holds (table : Table) (derived : DerivedSeries) : Prop :=
  ∀ benchmark ∈ table.benchmarks,
    sumSamples benchmark (table.columns derived.parts benchmark) =
      .ok (table.samples? derived.name benchmark)

/-- A table has the benchmarks of a target and agrees with it on the series that it lists. -/
structure AgreesWith (target table : Table) : Prop where
  wellFormed : table.WellFormed
  benchmarks_eq : table.benchmarks = target.benchmarks
  samples?_eq : ∀ series ∈ table.series, ∀ benchmark,
    table.samples? series benchmark = target.samples? series benchmark

variable {table target result : Table} {derived : DerivedSeries} {sums : List DerivedSeries}

theorem columns_congr {parts : List String} {benchmark : String}
    (same : ∀ part ∈ parts, table.samples? part benchmark = target.samples? part benchmark) :
    table.columns parts benchmark = target.columns parts benchmark := by
  apply List.map_congr_left
  intro part isPart
  rw [samplesOrNone, samplesOrNone, same part isPart]

theorem buildable_of_addSums (wellFormed : table.WellFormed)
    (added : addSums table sums = .ok result) : Buildable table.series sums := by
  induction sums generalizing table with
  | nil => trivial
  | cons derived rest ih =>
      rcases addSums_cons_eq_ok_iff.mp added with ⟨next, first, others⟩
      rcases wellFormed.agrees.withSum_eq_ok_iff.mp first with ⟨fresh, known, _⟩
      have buildable := ih (wellFormed.withSum first) others
      rw [series_withSum first] at buildable
      exact ⟨fresh, known, buildable⟩

/-- No sum touches the parts of those before it, so that all of them hold at the end. -/
theorem holds_of_addSums (wellFormed : table.WellFormed)
    (added : addSums table sums = .ok result) : ∀ sum ∈ sums, result.Holds sum := by
  induction sums generalizing table with
  | nil => simp
  | cons derived rest ih =>
      rcases addSums_cons_eq_ok_iff.mp added with ⟨next, first, others⟩
      have known := (wellFormed.agrees.withSum_eq_ok_iff.mp first).2.1
      have laterKept := (enlarges_of_addSums (wellFormed.withSum first) others).samples?_eq
      have kept := (enlarges_of_addSums wellFormed added).samples?_eq
      intro sum present
      rcases List.mem_cons.mp present with rfl | isLater
      · intro benchmark listed
        rw [benchmarks_addSums added] at listed
        have named : sum.name ∈ next.series := by
          rw [series_withSum first]
          exact List.mem_append_right table.series (List.mem_singleton_self sum.name)
        have sameColumns : result.columns sum.parts benchmark =
            table.columns sum.parts benchmark := by
          apply columns_congr
          intro part isPart
          exact kept part (known part isPart) benchmark
        rw [sameColumns, laterKept sum.name named]
        exact sumSamples_of_withSum first listed
      · exact ih (wellFormed.withSum first) others sum isLater

/-- A sum that holds in the target can be added, and the table goes on agreeing with the target. -/
theorem AgreesWith.withSum (agrees : target.AgreesWith table) (targetFormed : target.WellFormed)
    (holds : target.Holds derived) (fresh : derived.name ∉ table.series)
    (known : ∀ part ∈ derived.parts, part ∈ table.series) :
    ∃ next, table.withSum derived.name derived.parts = .ok next ∧ target.AgreesWith next := by
  have sums_eq : ∀ benchmark ∈ table.benchmarks,
      sumSamples benchmark (table.columns derived.parts benchmark) =
        .ok (target.samples? derived.name benchmark) := by
    intro benchmark listed
    rw [agrees.benchmarks_eq] at listed
    rw [← holds benchmark listed]
    apply congrArg
    apply columns_congr
    intro part isPart
    exact agrees.samples?_eq part (known part isPart) benchmark
  have succeeds := agrees.wellFormed.agrees.withSum_isOk_iff.mpr
    ⟨fresh, known, fun benchmark listed => ⟨_, sums_eq benchmark listed⟩⟩
  rcases succeeds with ⟨next, summed⟩
  have nextFormed := agrees.wellFormed.withSum summed
  have benchmarks_eq := (benchmarks_withSum summed).trans agrees.benchmarks_eq
  refine ⟨next, summed, nextFormed, benchmarks_eq, ?_⟩
  intro series listed benchmark
  by_cases isNew : series = derived.name
  · subst series
    by_cases inTable : benchmark ∈ table.benchmarks
    · have stored := sumSamples_of_withSum summed inTable
      rw [sums_eq benchmark inTable] at stored
      exact (Except.ok.inj stored).symm
    · rw [agrees.benchmarks_eq] at inTable
      rw [targetFormed.samples?_eq_none (fun named => inTable named.2),
        nextFormed.samples?_eq_none (fun named => inTable (benchmarks_eq ▸ named.2))]
  · rw [series_withSum summed] at listed
    rw [samples?_withSum_of_ne summed isNew]
    refine agrees.samples?_eq series ?_ benchmark
    simpa [isNew] using listed

theorem AgreesWith.addSums (agrees : target.AgreesWith table) (targetFormed : target.WellFormed)
    (holds : ∀ sum ∈ sums, target.Holds sum) (buildable : Buildable table.series sums) :
    ∃ other, ChartConfig.addSums table sums = .ok other ∧ target.AgreesWith other := by
  induction sums generalizing table with
  | nil => exact ⟨table, rfl, agrees⟩
  | cons derived rest ih =>
      rcases buildable with ⟨fresh, known, later⟩
      rcases agrees.withSum targetFormed (holds derived List.mem_cons_self) fresh known
        with ⟨next, first, nextAgrees⟩
      rw [← series_withSum first] at later
      have laterHold : ∀ sum ∈ rest, target.Holds sum := by
        intro sum present
        exact holds sum (List.mem_cons_of_mem derived present)
      rcases ih nextAgrees laterHold later with ⟨other, others, otherAgrees⟩
      exact ⟨other, addSums_cons_eq_ok_iff.mpr ⟨next, first, others⟩, otherAgrees⟩

/-- Sums that succeed in one order succeed in every order in which no sum comes before one of its
parts. All groups come out the same, and the series differ in the order of the sums alone. -/
theorem deriveSeries_perm {config : ChartConfig} {reordered : List DerivedSeries}
    (reachable : table.Reachable) (perm : config.sums.Perm reordered)
    (inOrder : DerivedSeries.InOrder reordered) (derived : config.deriveSeries table = .ok result) :
    ∃ other, { config with sums := reordered }.deriveSeries table = .ok other ∧
      other.benchmarks = result.benchmarks ∧
      (∀ series benchmark, other.samples? series benchmark = result.samples? series benchmark) ∧
      result.series = table.series ++ config.sums.map (·.name) ∧
      other.series = table.series ++ reordered.map (·.name) ∧
      (config.sums.map (·.name)).Perm (reordered.map (·.name)) := by
  have wellFormed := reachable.wellFormed
  have resultFormed := wellFormed.addSums derived
  have enlarges := enlarges_of_addSums wellFormed derived
  have start : result.AgreesWith table := by
    refine ⟨wellFormed, (benchmarks_addSums derived).symm, ?_⟩
    intro series listed benchmark
    exact (enlarges.samples?_eq series listed benchmark).symm
  have holds : ∀ sum ∈ reordered, result.Holds sum := by
    intro sum present
    exact holds_of_addSums wellFormed derived sum (perm.mem_iff.mpr present)
  have buildable := (buildable_of_addSums wellFormed derived).perm perm inOrder
  rcases start.addSums resultFormed holds buildable with ⟨other, added, agrees⟩
  have series_eq := (enlarges_of_addSums wellFormed added).series_eq
  have permNames := perm.map (·.name)
  refine ⟨other, added, agrees.benchmarks_eq, ?_, enlarges.series_eq, series_eq, permNames⟩
  intro series benchmark
  by_cases listed : series ∈ other.series
  · exact agrees.samples?_eq series listed benchmark
  · have unlisted : series ∉ result.series := by
      rw [enlarges.series_eq, List.mem_append, permNames.mem_iff, ← List.mem_append, ← series_eq]
      exact listed
    rw [agrees.wellFormed.samples?_eq_none (fun named => listed named.1),
      resultFormed.samples?_eq_none (fun named => unlisted named.1)]

/-- A sum of sums behind its parts, which change places. -/
theorem deriveSeries_perm_of_nested_sums :
    ∃ table result other,
      parse .keyed "# x\na 1\nb 2\n# y\nb 3\n" = .ok table ∧
        { ChartConfig.grouped with
          sums := [⟨"p", ["a"]⟩, ⟨"q", ["b"]⟩, ⟨"r", ["q", "q"]⟩] }.deriveSeries table =
          .ok result ∧
        { ChartConfig.grouped with
          sums := [⟨"q", ["b"]⟩, ⟨"r", ["q", "q"]⟩, ⟨"p", ["a"]⟩] }.deriveSeries table =
          .ok other ∧
        other.series = ["a", "b", "q", "r", "p"] ∧
        ∀ series benchmark, other.samples? series benchmark = result.samples? series benchmark := by
  have names :
      ((parse .keyed "# x\na 1\nb 2\n# y\nb 3\n").toOption.map fun table =>
        (table.series, ({ ChartConfig.grouped with
          sums := [⟨"p", ["a"]⟩, ⟨"q", ["b"]⟩, ⟨"r", ["q", "q"]⟩] }.deriveSeries
            table).toOption.map Table.series)) =
        some (["a", "b"], some ["a", "b", "p", "q", "r"]) := by decide +kernel
  rcases exists_ok_of_toOption_map names with ⟨table, parsed, seen⟩
  rcases Prod.mk.inj seen with ⟨ofText, ofSums⟩
  rcases exists_ok_of_toOption_map ofSums with ⟨result, derived, _⟩
  have perm : [⟨"p", ["a"]⟩, ⟨"q", ["b"]⟩, ⟨"r", ["q", "q"]⟩].Perm
      [⟨"q", ["b"]⟩, ⟨"r", ["q", "q"]⟩, (⟨"p", ["a"]⟩ : DerivedSeries)] := by decide
  have inOrder : DerivedSeries.InOrder [⟨"q", ["b"]⟩, ⟨"r", ["q", "q"]⟩, ⟨"p", ["a"]⟩] := by
    simp [DerivedSeries.InOrder]
  rcases deriveSeries_perm (.parsed parsed) perm inOrder derived with
    ⟨other, reorderedDerived, _, samples_eq, _, series_eq, _⟩
  rw [ofText] at series_eq
  exact ⟨table, result, other, parsed, derived, reorderedDerived, series_eq, samples_eq⟩

end Table

end SampleChart
