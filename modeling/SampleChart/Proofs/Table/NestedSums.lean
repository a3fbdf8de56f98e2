import SampleChart.Proofs.Double.Packing
import SampleChart.Proofs.Table.SumOutcome

/-!
# Nested sums

A sum whose first part is itself a sum can be taken in one step. Adding doubles is not associative,
so this rests on the order of the additions: a row is added up from left to right, and the nested
sum stands in front, so that its additions are the first ones either way. The one addition that the
step in between costs is that of minus zero, and `negZero_add` says that it changes nothing.
-/

namespace SampleChart

namespace Table

open ChartConfig (addSums)

variable {table middle result : Table} {name inner outer benchmark : String}
  {parts first second : List String}

theorem level_iff_exists_size :
    table.Level parts benchmark ↔ ∃ size, ∀ part ∈ parts, table.count part benchmark = size := by
  constructor
  · intro level
    cases parts with
    | nil => exact ⟨0, by simp⟩
    | cons part rest =>
        exact ⟨_, fun other isOther => level other isOther part List.mem_cons_self⟩
  · rintro ⟨size, sized⟩ part isPart other isOther
    rw [sized part isPart, sized other isOther]

theorem row?_append (table : Table) (first second : List String) (benchmark : String)
    (place : Nat) :
    table.row? (first ++ second) benchmark place =
      (table.row? first benchmark place).bind fun front =>
        (table.row? second benchmark place).map (front ++ ·) := by
  simp only [row?, List.mapM_append]
  cases first.mapM fun part => (table.samplesOrNone part benchmark)[place]? <;>
    cases second.mapM fun part => (table.samplesOrNone part benchmark)[place]? <;> rfl

theorem row?_cons (table : Table) (part : String) (rest : List String) (benchmark : String)
    (place : Nat) :
    table.row? (part :: rest) benchmark place =
      (table.samplesOrNone part benchmark)[place]?.bind fun sample =>
        (table.row? rest benchmark place).map (sample :: ·) := by
  simp only [row?, List.mapM_cons]
  cases (table.samplesOrNone part benchmark)[place]? <;>
    cases rest.mapM fun part => (table.samplesOrNone part benchmark)[place]? <;> rfl

theorem row?_congr {other : Table} {place : Nat}
    (same : ∀ part ∈ parts,
      table.samplesOrNone part benchmark = other.samplesOrNone part benchmark) :
    table.row? parts benchmark place = other.row? parts benchmark place := by
  induction parts with
  | nil => rfl
  | cons part rest ih =>
      have sameHead := same part List.mem_cons_self
      have sameTail := ih fun other isOther => same other (List.mem_cons_of_mem part isOther)
      rw [row?_cons, row?_cons, sameHead, sameTail]

namespace Sums

theorem samplesOrNone_eq (sums : table.Sums name parts result) {series : String}
    (other : series ≠ name) (benchmark : String) :
    result.samplesOrNone series benchmark = table.samplesOrNone series benchmark := by
  rw [samplesOrNone, samplesOrNone, sums.samples?_eq series other]

theorem count_of_ne (sums : table.Sums name parts result) {series : String}
    (other : series ≠ name) (benchmark : String) :
    result.count series benchmark = table.count series benchmark := by
  rw [count, count, sums.samplesOrNone_eq other]

/-- A sum has as many samples as each of its parts. -/
theorem count_part (sums : table.Sums name parts result) (benchmark : String) :
    ∀ part ∈ parts, table.count part benchmark = result.count name benchmark := by
  intro part isPart
  cases declared : result.samples? name benchmark with
  | none =>
      have allEmpty := (sums.none_iff benchmark).mp declared
      rw [allEmpty part isPart, count, samplesOrNone, declared]
      rfl
  | some samples =>
      rw [sums.count_eq benchmark samples declared part isPart, count, samplesOrNone, declared]
      rfl

/-- A sum has a group exactly where it has samples. -/
theorem samples?_eq_filter (sums : table.Sums name parts result) (benchmark : String) :
    result.samples? name benchmark =
      (some (result.samplesOrNone name benchmark)).filter (!·.isEmpty) := by
  cases declared : result.samples? name benchmark with
  | none => simp [samplesOrNone, declared, Option.filter]
  | some samples =>
      have filled : samples ≠ [] := by
        rintro rfl
        have absent := (sums.none_iff benchmark).mpr (sums.count_eq benchmark [] declared)
        rw [declared] at absent
        cases absent
      simp [samplesOrNone, declared, filled, Option.filter]

theorem getElem?_samplesOrNone (sums : table.Sums name parts result) (nonempty : parts ≠ [])
    (benchmark : String) (place : Nat) :
    (result.samplesOrNone name benchmark)[place]? =
      (table.row? parts benchmark place).map (·.foldl (· + ·) (-0.0)) := by
  cases declared : result.samples? name benchmark with
  | some samples =>
      rw [samplesOrNone, declared, Option.getD_some, sums.getElem?_eq benchmark samples declared]
  | none =>
      rcases List.exists_cons_of_ne_nil nonempty with ⟨part, rest, rfl⟩
      have noSamples : table.samplesOrNone part benchmark = [] :=
        List.length_eq_zero_iff.mp ((sums.none_iff benchmark).mp declared part List.mem_cons_self)
      rw [row?_cons, noSamples, samplesOrNone, declared]
      rfl

/-- Behind a sum its own parts need not be compared again. -/
theorem level_cons_iff (sums : table.Sums inner first middle) (nonempty : first ≠ [])
    (notInSecond : inner ∉ second) :
    middle.Level (inner :: second) benchmark ↔ table.Level (first ++ second) benchmark := by
  have ofFirst := sums.count_part benchmark
  have ofSecond : ∀ part ∈ second, middle.count part benchmark = table.count part benchmark := by
    intro part isPart
    refine sums.count_of_ne ?_ benchmark
    rintro rfl
    exact notInSecond isPart
  constructor
  · intro level
    apply level_iff_exists_size.mpr
    refine ⟨middle.count inner benchmark, ?_⟩
    intro part isPart
    rcases List.mem_append.mp isPart with inFirst | inSecond
    · exact ofFirst part inFirst
    · rw [← ofSecond part inSecond]
      exact level part (List.mem_cons_of_mem inner inSecond) inner List.mem_cons_self
  · intro level
    rcases List.exists_mem_of_ne_nil first nonempty with ⟨leading, isLeading⟩
    apply level_iff_exists_size.mpr
    refine ⟨middle.count inner benchmark, ?_⟩
    rintro part isPart
    rcases List.mem_cons.mp isPart with rfl | inSecond
    · rfl
    · rw [ofSecond part inSecond, ← ofFirst leading isLeading]
      exact level part (List.mem_append_right first inSecond) leading
        (List.mem_append_left second isLeading)

end Sums

/-- Adding up the parts of a nested sum first adds up the same numbers in the same order. -/
theorem samplesOrNone_nested (nonempty : first ≠ []) (notInSecond : inner ∉ second)
    {nested direct : Table} (ofInner : table.Sums inner first middle)
    (ofOuter : middle.Sums outer (inner :: second) nested)
    (ofBoth : table.Sums outer (first ++ second) direct) (benchmark : String) :
    nested.samplesOrNone outer benchmark = direct.samplesOrNone outer benchmark := by
  apply List.ext_getElem?
  intro place
  have rows_eq : middle.row? second benchmark place = table.row? second benchmark place := by
    apply row?_congr
    intro part isPart
    refine ofInner.samplesOrNone_eq ?_ benchmark
    rintro rfl
    exact notInSecond isPart
  rw [ofOuter.getElem?_samplesOrNone (by simp), ofBoth.getElem?_samplesOrNone (by simp [nonempty]),
    row?_cons, row?_append, ofInner.getElem?_samplesOrNone nonempty, rows_eq]
  cases table.row? first benchmark place with
  | none => rfl
  | some front =>
      cases table.row? second benchmark place with
      | none => rfl
      | some back => simp [Double.negZero_add]

/-- A sum of one part has the samples of this part. -/
theorem samplesOrNone_single {part : String} (sums : table.Sums name [part] result)
    (benchmark : String) :
    result.samplesOrNone name benchmark = table.samplesOrNone part benchmark := by
  apply List.ext_getElem?
  intro place
  rw [sums.getElem?_samplesOrNone (by simp), row?_cons]
  cases (table.samplesOrNone part benchmark)[place]? with
  | none => rfl
  | some sample => simp [row?, Double.negZero_add]

theorem addSums_single_eq_ok_iff :
    addSums table [⟨name, parts⟩] = .ok result ↔ table.withSum name parts = .ok result := by
  rw [addSums_cons_eq_ok_iff]
  constructor
  · rintro ⟨next, summed, same⟩
    rw [← Except.ok.inj same, summed]
  · intro summed
    exact ⟨result, summed, rfl⟩

theorem addSums_pair_eq_ok_iff :
    addSums table [⟨inner, first⟩, ⟨outer, second⟩] = .ok result ↔
      ∃ middle, table.withSum inner first = .ok middle ∧
        middle.withSum outer second = .ok result := by
  rw [addSums_cons_eq_ok_iff]
  simp only [addSums_single_eq_ok_iff]

/-- A nested sum succeeds exactly if the sum of all its parts does. -/
theorem nested_isOk_iff (wellFormed : table.WellFormed) (distinct : inner ≠ outer)
    (fresh : inner ∉ table.series) (nonempty : first ≠ []) (notInSecond : inner ∉ second) :
    (∃ middle, table.withSum inner first = .ok middle ∧
        ∃ nested, middle.withSum outer (inner :: second) = .ok nested) ↔
      ∃ direct, table.withSum outer (first ++ second) = .ok direct := by
  have agrees := wellFormed.agrees
  have listed_iff : ∀ middle, table.Sums inner first middle → ∀ series, series ≠ inner →
      (series ∈ middle.series ↔ series ∈ table.series) := by
    intro middle sums series other
    simp [sums.series_eq, other]
  have other_of_mem : ∀ part ∈ second, part ≠ inner := by
    rintro part isPart rfl
    exact notInSecond isPart
  constructor
  · rintro ⟨middle, ofInner, ofOuter⟩
    have sums := sums_of_withSum wellFormed ofInner
    have middleAgrees := agrees.withSum ofInner
    rcases agrees.withSum_isOk_iff_level.mp ⟨middle, ofInner⟩ with ⟨_, firstKnown, _⟩
    rcases middleAgrees.withSum_isOk_iff_level.mp ofOuter with ⟨outerFresh, known, level⟩
    apply agrees.withSum_isOk_iff_level.mpr
    refine ⟨?_, ?_, ?_⟩
    · rwa [listed_iff middle sums outer distinct.symm] at outerFresh
    · intro part isPart
      rcases List.mem_append.mp isPart with inFirst | inSecond
      · exact firstKnown part inFirst
      · rw [← listed_iff middle sums part (other_of_mem part inSecond)]
        exact known part (List.mem_cons_of_mem inner inSecond)
    · intro benchmark listed
      rw [← sums.benchmarks_eq] at listed
      exact (sums.level_cons_iff nonempty notInSecond).mp (level benchmark listed)
  · intro ofBoth
    rcases agrees.withSum_isOk_iff_level.mp ofBoth with ⟨outerFresh, known, level⟩
    have ofInner := agrees.withSum_isOk_iff_level.mpr ⟨fresh,
      fun part isPart => known part (List.mem_append_left second isPart),
      fun benchmark listed part isPart other isOther => level benchmark listed
        part (List.mem_append_left second isPart) other (List.mem_append_left second isOther)⟩
    rcases ofInner with ⟨middle, ofInner⟩
    have sums := sums_of_withSum wellFormed ofInner
    have middleAgrees := agrees.withSum ofInner
    refine ⟨middle, ofInner, middleAgrees.withSum_isOk_iff_level.mpr ⟨?_, ?_, ?_⟩⟩
    · rwa [listed_iff middle sums outer distinct.symm]
    · intro part isPart
      rcases List.mem_cons.mp isPart with rfl | inSecond
      · simp [sums.series_eq]
      · rw [listed_iff middle sums part (other_of_mem part inSecond)]
        exact known part (List.mem_append_right first inSecond)
    · intro benchmark listed
      rw [sums.benchmarks_eq] at listed
      exact (sums.level_cons_iff nonempty notInSecond).mpr (level benchmark listed)

/-- Where a sum begins with another sum, the two can be taken in one step: both ways succeed for the
same tables, and then they agree on every group but those of the inner sum. A sum of a single part
is a copy of it without its empty groups. -/
theorem addSums_nested (reachable : table.Reachable) (distinct : inner ≠ outer)
    (fresh : inner ∉ table.series) (nonempty : first ≠ []) (notInSecond : inner ∉ second) :
    ((∃ nested, addSums table [⟨inner, first⟩, ⟨outer, inner :: second⟩] = .ok nested) ↔
        ∃ direct, addSums table [⟨outer, first ++ second⟩] = .ok direct) ∧
      (∀ nested direct, addSums table [⟨inner, first⟩, ⟨outer, inner :: second⟩] = .ok nested →
        addSums table [⟨outer, first ++ second⟩] = .ok direct →
        ∀ series, series ≠ inner → ∀ benchmark,
          nested.samples? series benchmark = direct.samples? series benchmark) ∧
      ∀ part ∈ table.series, ∃ copy, addSums table [⟨inner, [part]⟩] = .ok copy ∧
        ∀ benchmark, copy.samples? inner benchmark =
          (table.samples? part benchmark).filter (!·.isEmpty) := by
  have wellFormed := reachable.wellFormed
  simp only [addSums_single_eq_ok_iff, addSums_pair_eq_ok_iff]
  refine ⟨?_, ?_, ?_⟩
  · rw [← nested_isOk_iff wellFormed distinct fresh nonempty notInSecond]
    constructor
    · rintro ⟨nested, middle, ofInner, ofOuter⟩
      exact ⟨middle, ofInner, nested, ofOuter⟩
    · rintro ⟨middle, ofInner, nested, ofOuter⟩
      exact ⟨nested, middle, ofInner, ofOuter⟩
  · rintro nested direct ⟨middle, ofInner, ofOuter⟩ ofBoth series other benchmark
    have innerSums := sums_of_withSum wellFormed ofInner
    have outerSums := sums_of_withSum (wellFormed.withSum ofInner) ofOuter
    have bothSums := sums_of_withSum wellFormed ofBoth
    by_cases isOuter : series = outer
    · subst isOuter
      rw [outerSums.samples?_eq_filter, bothSums.samples?_eq_filter,
        samplesOrNone_nested nonempty notInSecond innerSums outerSums bothSums]
    · rw [outerSums.samples?_eq series isOuter, innerSums.samples?_eq series other,
        bothSums.samples?_eq series isOuter]
  · intro part listed
    have level : ∀ benchmark ∈ table.benchmarks, table.Level [part] benchmark := by
      intro benchmark _
      exact level_iff_exists_size.mpr ⟨table.count part benchmark, by simp⟩
    rcases wellFormed.agrees.withSum_isOk_iff_level.mpr ⟨fresh, by simpa using listed, level⟩
      with ⟨copy, summed⟩
    have sums := sums_of_withSum wellFormed summed
    refine ⟨copy, summed, ?_⟩
    intro benchmark
    rw [sums.samples?_eq_filter, samplesOrNone_single sums, samplesOrNone]
    cases table.samples? part benchmark <;> rfl

/-- The rounding of these numbers depends on the order of the additions, and the copy is one of a
negative zero. -/
theorem addSums_nested_of_rounded_parts :
    ∃ table nested direct copy,
      parse .keyed "# x\na 0.1\nb 0.2\nc 0.3\n# y\na -0\nb -0\nc -0\n" = .ok table ∧
        addSums table [⟨"total", ["a", "b"]⟩, ⟨"all", ["total", "c"]⟩] = .ok nested ∧
        addSums table [⟨"all", ["a", "b", "c"]⟩] = .ok direct ∧
        nested.samples? "all" "x" = direct.samples? "all" "x" ∧
        addSums table [⟨"total", ["a"]⟩] = .ok copy ∧ copy.samples? "total" "y" = some [-0.0] := by
  have groups :
      ((parse .keyed "# x\na 0.1\nb 0.2\nc 0.3\n# y\na -0\nb -0\nc -0\n").toOption.map fun table =>
        (table.series, table.samples? "a" "y",
          (addSums table [⟨"all", ["a", "b", "c"]⟩]).toOption.map (·.series))) =
        some (["a", "b", "c"], some [-0.0], some ["a", "b", "c", "all"]) := by decide +kernel
  rcases exists_ok_of_toOption_map groups with ⟨table, parsed, seen⟩
  simp only [Prod.mk.injEq] at seen
  rcases seen with ⟨series, declared, ofSum⟩
  rcases exists_ok_of_toOption_map ofSum with ⟨direct, summed, _⟩
  have distinct : "total" ≠ "all" := by decide
  have fresh : "total" ∉ table.series := by simp [series]
  have nonempty : ["a", "b"] ≠ [] := by simp
  have notInSecond : "total" ∉ ["c"] := by simp
  rcases addSums_nested (.parsed parsed) distinct fresh nonempty notInSecond with
    ⟨succeeds, agree, copies⟩
  rcases succeeds.mpr ⟨direct, summed⟩ with ⟨nested, ofNested⟩
  rcases copies "a" (by simp [series]) with ⟨copy, copied, copy_eq⟩
  refine ⟨table, nested, direct, copy, parsed, ofNested, summed,
    agree nested direct ofNested summed "all" distinct.symm "x", copied, ?_⟩
  rw [copy_eq, declared]
  rfl

end Table

end SampleChart
