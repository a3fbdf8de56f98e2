import Mathlib.Data.List.Forall2
import SampleChart.Proofs.Summary.Faults

/-!
# Summaries with a baseline

A summary with a baseline is compared to the one of the same table without it. The divisors of the
former are collected in a pass of their own and then handed to the benchmarks one by one, so the
point is that every group is divided by the mean that the plain summary has for the baseline in the
very benchmark of the group.
-/

namespace SampleChart.Table

variable {table : Table} {config : ChartConfig} {baseline series benchmark : String}

end SampleChart.Table
