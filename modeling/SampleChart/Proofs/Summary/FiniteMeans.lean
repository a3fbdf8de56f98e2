import SampleChart.Json.Printer
import SampleChart.Proofs.Decimal.Finite
import SampleChart.Proofs.Statistics.RunningMean
import SampleChart.Proofs.Summary.Coverage
import SampleChart.Proofs.Table.Runs

/-!
# Finite means

The samples that are read are finite, but their means need not be: the mean of two samples of
different signs is lost where the distance between them is too large for a double. This is the only
way to lose a mean. A mean that is not lost lies between the smallest and the largest sample, and
means that are not relative to a baseline are shown as numbers exactly if they are not lost.
-/

namespace SampleChart

/-- A number is missing from a document exactly if it is not finite. -/
theorem Json.Value.print_real_eq_null_iff (spacing : Json.Spacing) (depth : Nat) (number : Float) :
    (real number).print spacing depth = ['n', 'u', 'l', 'l'] ↔ number.isFinite = false := by
  rw [print]
  split
  next finite => exact iff_of_false (Decimal.document_text_ne_null finite) (by simp [finite])
  next notFinite => exact iff_of_true rfl (by simpa using notFinite)

namespace Table

open Statistics (StaysFinite runningMean)

variable {table : Table} {config : ChartConfig} {summary : Summary}

/-- The mean in an entry of a summary without a baseline is that of the samples of its group. -/
theorem mean_of_mem_entries (plain : config.baseline = none)
    (summarized : table.summarize config = .ok summary) :
    ∀ result ∈ summary.results, ∀ entry ∈ result.entries,
      ∃ samples, table.samples? result.name entry.benchmark = some samples ∧
        entry.aggregate.mean = runningMean samples := by
  rcases summarize_eq_ok_iff.mp summarized with ⟨_, rfl⟩
  intro result isResult entry isEntry
  rcases List.mem_map.mp isResult with ⟨series, _, rfl⟩
  have made := (entryIn?_of_mem_entries isEntry).2
  rw [entryIn?_eq, plain] at made
  rcases Option.map_eq_some_iff.mp made with ⟨samples, declared, isEntry⟩
  exact ⟨samples, declared, by rw [← isEntry]; rfl⟩

/-- A group with samples has a mean. It is finite exactly if no sample is infinitely far from the
mean of those before it, as for samples that have no different signs, and then it lies between the
smallest and the largest sample. In a summary without a baseline the means that are finite, and no
others, are listed as numbers and are not missing from the document. -/
theorem finite_means {layout : Layout} {text : String} (parsed : parse layout text = .ok table) :
    (∀ series benchmark samples, table.samples? series benchmark = some samples → samples ≠ [] →
      ∃ mean, table.mean series benchmark = .ok mean ∧
        (mean.isFinite = true ↔ StaysFinite samples) ∧
        (mean.isFinite = true → ∃ low ∈ samples, ∃ high ∈ samples, low ≤ mean ∧ mean ≤ high) ∧
        ((∀ sample ∈ samples, 0 ≤ sample) ∨ (∀ sample ∈ samples, sample ≤ 0) →
          mean.isFinite = true)) ∧
      ∀ config summary, config.baseline = none → table.summarize config = .ok summary →
        ∀ result ∈ summary.results, ∀ entry ∈ result.entries,
          ∃ samples, table.samples? result.name entry.benchmark = some samples ∧
            (Decimal.fixed 4 entry.aggregate.mean ∈ Decimal.words ↔ ¬StaysFinite samples) ∧
            ∀ spacing depth,
              (Json.Value.real entry.aggregate.mean).print spacing depth = ['n', 'u', 'l', 'l'] ↔
                ¬StaysFinite samples := by
  constructor
  · intro series benchmark samples declared filled
    have averaged : table.mean series benchmark = .ok (runningMean samples) := by
      rw [mean_eq, meanOf, samplesOrNone, declared, Option.getD_some, if_neg filled]
    have finite := (Initial.parsed parsed).isFinite series benchmark samples declared
    have finiteMean := Statistics.isFinite_runningMean_iff samples
    refine ⟨_, averaged, finiteMean, ?_, ?_⟩
    · intro meanFinite
      exact Statistics.runningMean_between filled (finiteMean.mp meanFinite)
    · intro sameSign
      exact finiteMean.mpr (Statistics.staysFinite_of_same_sign finite sameSign)
  · intro config summary plain summarized result isResult entry isEntry
    rcases mean_of_mem_entries plain summarized result isResult entry isEntry with
      ⟨samples, declared, isMean⟩
    have lost : (runningMean samples).isFinite = false ↔ ¬StaysFinite samples := by
      rw [← Statistics.isFinite_runningMean_iff, Bool.not_eq_true]
    rw [isMean]
    refine ⟨samples, declared, (Decimal.fixed_mem_words_iff 4 _).trans lost, ?_⟩
    intro spacing depth
    exact (Json.Value.print_real_eq_null_iff spacing depth _).trans lost

/-- Two large samples of the same sign have a finite mean, although their sum is infinite. -/
theorem finite_means_of_large_samples :
    ∃ table mean, parse .keyed "# x\na 1.5e308\na 1.7e308\n" = .ok table ∧
      table.mean "a" "x" = .ok mean ∧ ((1.5e308 : Float) + 1.7e308).isFinite = false ∧
        mean.isFinite = true := by
  have groups : ((parse .keyed "# x\na 1.5e308\na 1.7e308\n").toOption.map
      (·.samples? "a" "x")) = some (some [1.5e308, 1.7e308]) := by decide +kernel
  rcases exists_ok_of_toOption_map groups with ⟨table, parsed, declared⟩
  rcases (finite_means parsed).1 "a" "x" _ declared (by simp) with
    ⟨mean, averaged, _, _, finite⟩
  refine ⟨table, mean, parsed, averaged, by decide +kernel, finite (.inl ?_)⟩
  simp only [List.forall_mem_cons]
  decide +kernel

/-- The mean of two samples of different signs is minus infinity, and the document lacks it. -/
theorem not_finite_mean_of_distant_samples :
    ∃ table mean, parse .keyed "# x\na 1e308\na -1e308\n" = .ok table ∧
      table.samples? "a" "x" = some [1e308, -1e308] ∧ table.mean "a" "x" = .ok mean ∧
        mean.isFinite = false ∧ Decimal.fixed 4 mean = "-inf" ∧
        (Json.Value.real mean).print Json.pretty 5 = ['n', 'u', 'l', 'l'] := by
  have groups : ((parse .keyed "# x\na 1e308\na -1e308\n").toOption.map
      (·.samples? "a" "x")) = some (some [1e308, -1e308]) := by decide +kernel
  rcases exists_ok_of_toOption_map groups with ⟨table, parsed, declared⟩
  have infinite : runningMean [1e308, -1e308] = (-1 / 0 : Float) := by decide +kernel
  have averaged : table.mean "a" "x" = .ok (-1 / 0) := by
    rw [mean_eq, meanOf, samplesOrNone, declared, Option.getD_some, if_neg (by simp), infinite]
  exact ⟨table, -1 / 0, parsed, declared, averaged, by decide +kernel, by decide +kernel,
    by decide +kernel⟩

end Table

end SampleChart
