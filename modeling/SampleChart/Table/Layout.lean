import SampleChart.Text.Named

/-!
# Layouts

A results file comes in one of three layouts. All of them have marker lines, whose first field is
the single character `#` and which say where the samples after them belong.

* headerless: markers `# benchmark role` with one of the two roles `offset` and `native`;
* headered: a legend line with the names of the series, then markers `# benchmark series`;
* keyed: markers `# benchmark`, and each sample with its series in front.

The fourth value, `auto`, leaves the choice to the first line that is not blank.
-/

namespace SampleChart

/-- How a results file says where a sample belongs. -/
inductive Layout where
  | auto
  | headerless
  | headered
  | keyed
  deriving DecidableEq, Repr

namespace Layout

/-- The name that chooses a layout. -/
def name : Layout → String
  | .auto => "auto"
  | .headerless => "headerless"
  | .headered => "headered"
  | .keyed => "keyed"

instance : Named Layout where
  all := [.auto, .headerless, .headered, .keyed]
  name := name

/-- The first field of a marker. -/
def marker : String := "#"

/-- The two series of the headerless layout, in their order. -/
def roles : List String := ["offset", "native"]

/-- The layout of a file whose first line has these fields: a marker with one more field is keyed, a
marker with two is headerless, and all else is a legend. -/
def detect : List String → Layout
  | [] => .headered
  | first :: rest =>
      if first = marker then
        match rest.length with
        | 1 => .keyed
        | 2 => .headerless
        | _ => .headered
      else .headered

/-- How many fields a marker has behind its first one. -/
def markerFields : Layout → Nat
  | .keyed => 1
  | _ => 2

end Layout

end SampleChart
