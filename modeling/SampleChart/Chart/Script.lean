import SampleChart.Chart.Figure
import SampleChart.Config.Basic
import SampleChart.Decimal.Style

/-!
# Chart scripts

A chart is drawn by gnuplot, which is sent commands and behind them the data of the items in binary
form. The commands set up the figure line by line, and the last one lists the items, each with the
number of its rows. Texts stand between single quotes. In the path of the chart a quote is doubled;
in names and in the title an underscore gets a backslash, so that it is not read as a subscript;
labels stand as they are.
-/

namespace SampleChart.Chart

/-- What gnuplot is sent: commands, and the numbers of all items. -/
structure Script where
  commands : String
  data : List Float
  deriving Repr

/-- The eight bytes of a double, the last one first. -/
def bytesOf (value : Float) : List UInt8 :=
  let bits := value.toBits.toNat
  (List.range 8).map fun place => (bits / Nat.pow 256 place % 256).toUInt8

def Script.bytes (script : Script) : ByteArray :=
  script.commands.toUTF8 ++ ⟨(script.data.flatMap bytesOf).toArray⟩

/-- A text in which underscores have a backslash. -/
def escapeUnderscores (text : String) : String :=
  String.ofList (text.toList.flatMap fun character =>
    if character = '_' then ['\\', '_'] else [character])

/-- A text in which quotes are doubled. -/
def doubleQuotes (text : String) : String :=
  String.ofList (text.toList.flatMap fun character =>
    if character = '\'' then ['\'', '\''] else [character])

def literal (text : String) : String :=
  "'" ++ text ++ "'"

/-- The two hexadecimal digits of a part of a colour. -/
def hexByte (value : Nat) : String :=
  String.ofList [Nat.digitChar (value / 16), Nat.digitChar (value % 16)]

def Color.text (color : Color) : String :=
  "#" ++ hexByte color.red ++ hexByte color.green ++ hexByte color.blue

/-- The list of the benchmarks with their places on the axis. -/
def tics : List String → String
  | [] => ""
  | benchmarks =>
      "(" ++
        ", ".intercalate (benchmarks.zipIdx.map fun (benchmark, slot) =>
          literal (escapeUnderscores benchmark) ++ " " ++ toString slot) ++
        ")"

/-- The range of the axis with the benchmarks, from the border of the first slot to that behind the
last. -/
def horizontalRange (benchmarkCount : Nat) : String :=
  "[" ++ Decimal.plain.text (slotBorder 0) ++ ":" ++
    Decimal.plain.text (slotBorder benchmarkCount) ++ "]"

/-- The commands that set up a figure. -/
def setup (summary : Summary) (config : ChartConfig) (path : String) : List String :=
  ["set output " ++ literal (doubleQuotes path)] ++
    (config.title.map fun title => "set title " ++ literal (escapeUnderscores title)).toList ++
    ["set xtics nomirror " ++ tics summary.benchmarks,
      "set xlabel " ++ literal config.xLabel,
      "set xrange " ++ horizontalRange summary.benchmarks.length,
      "set ytics nomirror ",
      "set ylabel " ++ literal config.yLabel] ++
    (if config.logScale then ["set logscale y"] else []) ++
    ["set grid ytics",
      "set key on inside top right Left reverse ",
      "set terminal svg dynamic dashed size 1280, 720 font 'Helvetica'",
      "unset bars"]

/-- How the data of an item are to be read. -/
def Item.source (item : Item) : String :=
  "'-' binary endian=little record=" ++ toString item.rows.length ++ " format='%float64' using " ++
    ":".intercalate ((List.range item.columns).map fun column => toString (column + 1))

def Item.drawing (width : Float) : Item → String
  | .bars name color _ =>
      " with impulses lt 1 lw " ++ Decimal.plain.text width ++ " lc rgb " ++ literal color.text ++
        " title " ++ literal (escapeUnderscores name)
  | .errorBars _ => " with yerrorbars lt 1 lw 1.5 lc rgb 'black' ps 0.5 notitle"

/-- The command that lists the items, which is empty if there are none. -/
def plotCommand (width : Float) : List Item → String
  | [] => ""
  | items =>
      "plot " ++ ", ".intercalate (items.map fun item => item.source ++ item.drawing width)

/-- The script for a chart of a summary. The command that lists the items has a line as soon as
there is a series. -/
def script (summary : Summary) (config : ChartConfig) (path : String) : Script :=
  let items := items summary
  let width := barWidth summary.benchmarks.length summary.series.length
  let plot := if summary.results.isEmpty then [] else [plotCommand width items]
  ⟨String.join ((setup summary config path ++ plot).map (· ++ "\n")), items.flatMap Item.values⟩

end SampleChart.Chart
