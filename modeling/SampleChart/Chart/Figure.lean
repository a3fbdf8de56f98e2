import SampleChart.Chart.Geometry
import SampleChart.Summary.Basic

/-!
# What a chart draws

A chart has up to two items for each series: the bars, one for each benchmark in which the series
has an entry, and the error bars of those among them that have one. An item without rows is not
drawn.
-/

namespace SampleChart.Chart

/-- A colour by its three parts, each below 256. -/
structure Color where
  red : Nat
  green : Nat
  blue : Nat
  deriving DecidableEq, Repr

/-- The colours of the series, which repeat after the eighth. -/
def palette : List Color :=
  [⟨102, 194, 165⟩, ⟨252, 141, 98⟩, ⟨141, 160, 203⟩, ⟨231, 138, 195⟩, ⟨166, 216, 84⟩,
    ⟨255, 217, 47⟩, ⟨229, 196, 148⟩, ⟨179, 179, 179⟩]

def seriesColor (index : Nat) : Color :=
  palette.get ⟨index % palette.length, Nat.mod_lt _ (by decide)⟩

/-- A bar: its position and what it shows. -/
structure Bar where
  position : Float
  aggregate : Aggregate
  deriving Repr

/-- What is drawn from one stretch of the data of a chart. -/
inductive Item where
  /-- The bars of a series. -/
  | bars (name : String) (color : Color) (bars : List Bar)
  /-- The error bars of some bars. -/
  | errorBars (bars : List (Bar × ErrorBar))
  deriving Repr

namespace Item

/-- The rows of data that an item is drawn from: position and mean, for an error bar followed by its
two ends. -/
def rows : Item → List (List Float)
  | bars _ _ drawn => drawn.map fun bar => [bar.position, bar.aggregate.mean]
  | errorBars drawn =>
      drawn.map fun (bar, error) =>
        [bar.position, bar.aggregate.mean, bar.aggregate.mean - error.lower,
          bar.aggregate.mean + error.upper]

def columns : Item → Nat
  | bars .. => 2
  | errorBars _ => 4

def values (item : Item) : List Float :=
  item.rows.flatten

/-- The items of a series: its bars, and the error bars among them. -/
def ofBars (name : String) (color : Color) (drawn : List Bar) : List Item :=
  let withError :=
    drawn.filterMap fun bar => bar.aggregate.error.map fun error => (bar, error)
  [bars name color drawn, errorBars withError].filter fun item => !item.rows.isEmpty

end Item

/-- The bars of the series with an index. -/
def barsOf (summary : Summary) (index : Nat) (name : String) : List Bar :=
  summary.benchmarks.zipIdx.filterMap fun (benchmark, slot) =>
    (summary.get? name benchmark).map fun aggregate =>
      ⟨barPosition slot index summary.series.length, aggregate⟩

/-- The items of a chart, series by series. -/
def items (summary : Summary) : List Item :=
  summary.series.zipIdx.flatMap fun (name, index) =>
    Item.ofBars name (seriesColor index) (barsOf summary index name)

end SampleChart.Chart
