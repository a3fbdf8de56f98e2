import Mathlib
import SampleChart.Chart.Geometry

/-!
# Bars do not collide

In exact arithmetic the bars of a chart stand in the order of their benchmarks and, for one
benchmark, in that of their series. From one bar to the next there is at least the share of a slot
that falls to a series, and a bar that is drawn with its fitting width covers less than this share.
-/

namespace SampleChart.Chart

open Scalar

/-- The place of a bar: that of its benchmark and, within the slot, that of its series. Places are
ordered by the benchmark first. -/
abbrev Place (benchmarkCount seriesCount : ℕ) : Type :=
  Fin benchmarkCount ×ₗ Fin seriesCount

namespace Place

variable {benchmarkCount seriesCount : ℕ}

def benchmark (place : Place benchmarkCount seriesCount) : Fin benchmarkCount :=
  (ofLex place).1

def series (place : Place benchmarkCount seriesCount) : Fin seriesCount :=
  (ofLex place).2

/-- Where the bar at a place is centred on the axis. -/
def centre (place : Place benchmarkCount seriesCount) : ℚ :=
  barPosition place.benchmark place.series seriesCount

/-- The pixels that the bar at a place covers, counted from the first tic. -/
def strip (place : Place benchmarkCount seriesCount) : Set ℚ :=
  Set.Icc (plotWidth / benchmarkCount * place.centre - barWidth benchmarkCount seriesCount / 2)
    (plotWidth / benchmarkCount * place.centre + barWidth benchmarkCount seriesCount / 2)

end Place

/-- A bar stands in the middle of its share of the slot. -/
theorem barPosition_eq (benchmark series seriesCount : ℕ) :
    (barPosition benchmark series seriesCount : ℚ) =
      benchmark - 0.4 + 0.8 / seriesCount * (series + 0.5) := by
  simp only [barPosition, groupWidth, ofCount]
  norm_num

theorem barPosition_sub (benchmark benchmark' series series' seriesCount : ℕ) :
    (barPosition benchmark series seriesCount - barPosition benchmark' series' seriesCount : ℚ) =
      benchmark - benchmark' + 0.8 / seriesCount * (series - series') := by
  rw [barPosition_eq, barPosition_eq]
  ring

theorem share_mul_le {seriesCount : ℕ} (filled : 0 < seriesCount) {bars : ℚ}
    (few : bars ≤ seriesCount) : 0.8 / seriesCount * bars ≤ 0.8 := by
  have positive : (0 : ℚ) < seriesCount := by exact_mod_cast filled
  rw [div_mul_eq_mul_div, div_le_iff₀ positive]
  gcongr

/-- Between the bars of two benchmarks there is the free part of a slot as well, be they the last of
one slot and the first of the next. -/
theorem barPosition_next_slot {benchmark benchmark' series series' seriesCount : ℕ}
    (behind : benchmark < benchmark') (inSlot : series < seriesCount) :
    (0.2 + 0.8 / seriesCount : ℚ) ≤
      barPosition benchmark' series' seriesCount - barPosition benchmark series seriesCount := by
  have slots : (benchmark + 1 : ℚ) ≤ benchmark' := by exact_mod_cast behind
  have bars : (series + 1 : ℚ) ≤ seriesCount := by exact_mod_cast inSlot
  have share := share_mul_le (Nat.zero_lt_of_lt inSlot) bars
  have others : (0 : ℚ) ≤ 0.8 / seriesCount * series' := by positivity
  rw [barPosition_sub]
  linarith

/-- Bars of one slot are apart by a share at least. -/
theorem barPosition_next_series {benchmark series series' seriesCount : ℕ}
    (behind : series < series') :
    (0.8 / seriesCount : ℚ) ≤
      barPosition benchmark series' seriesCount - barPosition benchmark series seriesCount := by
  have bars : (1 : ℚ) ≤ series' - series := by
    have behind : (series + 1 : ℚ) ≤ series' := by exact_mod_cast behind
    linarith
  rw [barPosition_sub, sub_self, zero_add]
  exact le_mul_of_one_le_right (by positivity) bars

/-- A bar stands between the borders of its slot. -/
theorem barPosition_mem_slot (benchmark : ℕ) {series seriesCount : ℕ}
    (inSlot : series < seriesCount) :
    (barPosition benchmark series seriesCount : ℚ) ∈
      Set.Ioo (slotBorder benchmark) (slotBorder (benchmark + 1)) := by
  have bars : (series + 0.5 : ℚ) ≤ seriesCount := by
    have bars : (series + 1 : ℚ) ≤ seriesCount := by exact_mod_cast inSlot
    linarith
  have filled := Nat.zero_lt_of_lt inSlot
  have above : (0 : ℚ) < 0.8 / seriesCount * (series + 0.5) := by positivity
  have below := share_mul_le filled bars
  rw [barPosition_eq, slotBorder, slotBorder, Set.mem_Ioo]
  constructor
  · simp only [ofCount]
    linarith
  · simp only [ofCount]
    push_cast
    linarith

/-- Bars of one slot that are as far from its ends are as far from its middle. -/
theorem barPosition_mirrored (benchmark : ℕ) {series seriesCount : ℕ}
    (inSlot : series < seriesCount) :
    (barPosition benchmark (seriesCount - (series + 1)) seriesCount - benchmark : ℚ) =
      benchmark - barPosition benchmark series seriesCount := by
  have filled : (seriesCount : ℚ) ≠ 0 := by exact_mod_cast Nat.ne_zero_of_lt inSlot
  have whole : (0.8 / seriesCount * seriesCount : ℚ) = 0.8 := div_mul_cancel₀ _ filled
  rw [barPosition_eq, barPosition_eq, Nat.cast_sub inSlot]
  push_cast
  linarith

theorem fittingWidth_eq {benchmarkCount seriesCount : ℕ} (benchmarks : 0 < benchmarkCount)
    (series : 0 < seriesCount) :
    (fittingWidth benchmarkCount seriesCount : ℚ) =
      0.9 * (plotWidth / benchmarkCount * (0.8 / seriesCount)) := by
  rw [fittingWidth, Nat.max_eq_left benchmarks, Nat.max_eq_left series]
  simp only [groupWidth, barShare, ofCount]
  ring

theorem barWidth_eq (benchmarkCount seriesCount : ℕ) :
    (barWidth benchmarkCount seriesCount : ℚ) =
      max (fittingWidth benchmarkCount seriesCount) 1 := by
  have one : (1.0 : ℚ) = 1 := by norm_num
  rw [barWidth, one, max_def_lt]

namespace Place

variable {benchmarkCount seriesCount : ℕ}

theorem share_pos (place : Place benchmarkCount seriesCount) : (0 : ℚ) < 0.8 / seriesCount := by
  have filled : (0 : ℚ) < seriesCount := by exact_mod_cast place.series.pos
  positivity

/-- A bar has its share of the slot before the bars behind it. -/
theorem share_le_centre_sub {place later : Place benchmarkCount seriesCount}
    (behind : place < later) : (0.8 / seriesCount : ℚ) ≤ later.centre - place.centre := by
  rcases Prod.Lex.lt_iff.mp behind with nextSlot | ⟨sameSlot, nextSeries⟩
  · have apart : (0.2 + 0.8 / seriesCount : ℚ) ≤ later.centre - place.centre :=
      barPosition_next_slot nextSlot place.series.isLt
    linarith
  · have same : later.benchmark = place.benchmark := sameSlot.symm
    rw [centre, centre, same]
    exact barPosition_next_series nextSeries

/-- The bars stand from left to right slot by slot, and in a slot series by series. -/
theorem centre_strictMono :
    StrictMono (centre : Place benchmarkCount seriesCount → ℚ) := by
  intro place later behind
  apply sub_pos.mp
  exact lt_of_lt_of_le place.share_pos (share_le_centre_sub behind)

/-- Bars of different slots are apart by a share and the gap between the groups at least. -/
theorem centre_apart {place other : Place benchmarkCount seriesCount}
    (slots : place.benchmark ≠ other.benchmark) :
    (0.2 + 0.8 / seriesCount : ℚ) ≤ |place.centre - other.centre| := by
  rcases lt_or_gt_of_ne slots with behind | before
  · rw [abs_sub_comm]
    apply le_trans _ (le_abs_self _)
    exact barPosition_next_slot behind place.series.isLt
  · apply le_trans _ (le_abs_self _)
    exact barPosition_next_slot before other.series.isLt

theorem centre_neighbour (benchmark : Fin benchmarkCount) {series next : Fin seriesCount}
    (neighbour : next.val = series.val + 1) :
    centre (toLex (benchmark, next)) - centre (toLex (benchmark, series)) = 0.8 / seriesCount := by
  simp only [centre, Place.benchmark, Place.series, ofLex_toLex, barPosition_sub, neighbour]
  push_cast
  ring

theorem centre_mirrored (benchmark : Fin benchmarkCount) (series : Fin seriesCount) :
    centre (toLex (benchmark, series.rev)) - benchmark.val =
      benchmark.val - centre (toLex (benchmark, series)) := by
  simp only [centre, Place.benchmark, Place.series, ofLex_toLex, Fin.val_rev]
  exact barPosition_mirrored benchmark series.isLt

/-- Every bar and its mirror image lie around the tic, so that all of them together do. -/
theorem average_centre (filled : 0 < seriesCount) (benchmark : Fin benchmarkCount) :
    (∑ series : Fin seriesCount, centre (toLex (benchmark, series))) / seriesCount =
      benchmark.val := by
  have mirrored : ∑ series : Fin seriesCount, centre (toLex (benchmark, series.rev)) =
      ∑ series : Fin seriesCount, centre (toLex (benchmark, series)) :=
    Equiv.sum_comp Fin.revPerm fun series => centre (toLex (benchmark, series))
  have pairs : ∑ series : Fin seriesCount,
      (centre (toLex (benchmark, series.rev)) + centre (toLex (benchmark, series))) =
        seriesCount * (2 * benchmark.val : ℚ) := by
    rw [Finset.sum_congr rfl fun series _ => show _ = (2 * benchmark.val : ℚ) by
      linarith [centre_mirrored benchmark series]]
    simp
  rw [Finset.sum_add_distrib, mirrored] at pairs
  have some : (seriesCount : ℚ) ≠ 0 := by exact_mod_cast filled.ne'
  rw [div_eq_iff some]
  linarith

theorem centre_mem_axis (place : Place benchmarkCount seriesCount) :
    place.centre ∈ Set.Ioo (slotBorder 0) (slotBorder benchmarkCount) := by
  have ⟨left, right⟩ := barPosition_mem_slot place.benchmark place.series.isLt
  have last : (place.benchmark.val + 1 : ℚ) ≤ benchmarkCount := by
    exact_mod_cast place.benchmark.isLt
  constructor
  · apply lt_of_le_of_lt _ left
    simp [slotBorder, ofCount]
  · apply lt_of_lt_of_le right
    simpa [slotBorder, ofCount] using last

/-- A bar that is drawn with its fitting width is narrower than the way to any other one. -/
theorem barWidth_lt (fits : (1 : ℚ) ≤ fittingWidth benchmarkCount seriesCount)
    {place later : Place benchmarkCount seriesCount} (behind : place < later) :
    barWidth benchmarkCount seriesCount <
      plotWidth / benchmarkCount * (later.centre - place.centre) := by
  have scale : (0 : ℚ) < plotWidth / benchmarkCount := by
    have filled : (0 : ℚ) < benchmarkCount := by exact_mod_cast place.benchmark.pos
    have plot : (0 : ℚ) < plotWidth := by norm_num [plotWidth]
    positivity
  have share := mul_pos scale place.share_pos
  calc (barWidth benchmarkCount seriesCount : ℚ)
      = 0.9 * (plotWidth / benchmarkCount * (0.8 / seriesCount)) := by
        rw [barWidth_eq, max_eq_left fits, fittingWidth_eq place.benchmark.pos place.series.pos]
    _ < plotWidth / benchmarkCount * (0.8 / seriesCount) := by linarith
    _ ≤ plotWidth / benchmarkCount * (later.centre - place.centre) :=
        mul_le_mul_of_nonneg_left (share_le_centre_sub behind) scale.le

/-- Where the width that fits is not raised, a bar ends before the next begins. -/
theorem disjoint_strip (fits : (1 : ℚ) ≤ fittingWidth benchmarkCount seriesCount)
    {place later : Place benchmarkCount seriesCount} (behind : place < later) :
    Disjoint place.strip later.strip := by
  rw [Set.disjoint_left]
  rintro pixel ⟨-, inLeft⟩ ⟨inRight, -⟩
  have narrow := barWidth_lt fits behind
  linarith

/-- Where the width that fits is not raised, no two bars share a point. -/
theorem apart_of_ne (fits : (1 : ℚ) ≤ fittingWidth benchmarkCount seriesCount)
    {place other : Place benchmarkCount seriesCount} (different : place ≠ other) :
    barWidth benchmarkCount seriesCount <
        plotWidth / benchmarkCount * |place.centre - other.centre| ∧
      Disjoint place.strip other.strip := by
  rcases lt_or_gt_of_ne different with behind | before
  · rw [abs_sub_comm, abs_of_pos (sub_pos.mpr (centre_strictMono behind))]
    exact ⟨barWidth_lt fits behind, disjoint_strip fits behind⟩
  · rw [abs_of_pos (sub_pos.mpr (centre_strictMono before))]
    exact ⟨barWidth_lt fits before, (disjoint_strip fits before).symm⟩

end Place

/-- The bars of a chart do not collide: they stand in order and apart, around the tics and within
the axis. Unless a bar is drawn with one pixel because its fitting width is less than that, it is
narrower than the distance of any two bars, so that no two of them overlap. -/
theorem bars_apart (benchmarkCount seriesCount : ℕ) (filled : 0 < seriesCount) :
    StrictMono (Place.centre : Place benchmarkCount seriesCount → ℚ) ∧
      (∀ benchmark : Fin benchmarkCount, ∀ series next : Fin seriesCount,
        next.val = series.val + 1 →
          Place.centre (toLex (benchmark, next)) - Place.centre (toLex (benchmark, series)) =
            0.8 / seriesCount) ∧
      (∀ place other : Place benchmarkCount seriesCount, place.benchmark ≠ other.benchmark →
        0.2 + 0.8 / seriesCount ≤ |place.centre - other.centre|) ∧
      (∀ benchmark : Fin benchmarkCount, ∀ series : Fin seriesCount,
        Place.centre (toLex (benchmark, series.rev)) - benchmark.val =
          benchmark.val - Place.centre (toLex (benchmark, series))) ∧
      (∀ benchmark : Fin benchmarkCount,
        (∑ series : Fin seriesCount, Place.centre (toLex (benchmark, series))) / seriesCount =
          benchmark.val) ∧
      (∀ place : Place benchmarkCount seriesCount,
        slotBorder 0 < place.centre ∧ place.centre < slotBorder benchmarkCount) ∧
      ((fittingWidth benchmarkCount seriesCount : ℚ) < 1 ∧
          (barWidth benchmarkCount seriesCount : ℚ) = 1 ∨
        ∀ place other : Place benchmarkCount seriesCount, place ≠ other →
          barWidth benchmarkCount seriesCount <
              plotWidth / benchmarkCount * |place.centre - other.centre| ∧
            Disjoint place.strip other.strip) := by
  refine ⟨Place.centre_strictMono, ?_, ?_, ?_, ?_, ?_, ?_⟩
  · intro benchmark series next neighbour
    exact Place.centre_neighbour benchmark neighbour
  · intro place other slots
    exact Place.centre_apart slots
  · intro benchmark series
    exact Place.centre_mirrored benchmark series
  · intro benchmark
    exact Place.average_centre filled benchmark
  · intro place
    exact place.centre_mem_axis
  · rcases lt_or_ge (fittingWidth benchmarkCount seriesCount : ℚ) 1 with narrow | fits
    · left
      exact ⟨narrow, by rw [barWidth_eq, max_eq_right narrow.le]⟩
    · right
      intro place other different
      exact Place.apart_of_ne fits different

/-- The bars of two series in the last of three slots. -/
theorem bars_apart_of_two_series :
    0 < 2 ∧
      Place.centre (toLex (2, 0) : Place 3 2) = 1.8 ∧
      Place.centre (toLex (2, 1) : Place 3 2) = 2.2 ∧
      (∑ series : Fin 2, Place.centre (toLex (2, series) : Place 3 2)) / (2 : ℕ) = 2 ∧
      (barWidth 3 2 : ℚ) = 132 ∧
      barWidth 3 2 < plotWidth / (3 : ℕ) *
        |Place.centre (toLex (2, 0) : Place 3 2) - Place.centre (toLex (2, 1) : Place 3 2)| := by
  obtain ⟨-, -, -, -, average, -, width⟩ := bars_apart 3 2 (by decide)
  have fits : ¬(fittingWidth 3 2 : ℚ) < 1 := by decide +kernel
  have narrow := width.resolve_left fun raised => fits raised.1
  refine ⟨by decide, by decide +kernel, by decide +kernel, average 2, by decide +kernel, ?_⟩
  exact (narrow (toLex (2, 0)) (toLex (2, 1)) (by decide)).1

/-- Among too many bars a line of one pixel is wider than the way to the next one. -/
example : (barWidth 50 20 : ℚ) = 1 ∧ plotWidth / 50 * (0.8 / 20) < (1 : ℚ) := by
  decide +kernel

end SampleChart.Chart
