import Mathlib
import SampleChart.Chart.Script
import SampleChart.Proofs.Json.Numbers

/-!
# The frames of chart data

gnuplot takes the data of a chart from the bytes behind the commands. Each item of the plot line
announces how many records of how many doubles belong to it, and the bytes are cut accordingly, item
by item. Here the announcements are read from the texts of the items and the doubles from the bytes,
without a look at what they were made of.
-/

namespace SampleChart.Chart

open Decimal (digitsValue splitDigits)

/-- How an item is drawn. -/
inductive Style where
  | impulses
  | yErrorBars
  deriving DecidableEq, Repr

/-- What an item says of its data. -/
structure Announcement where
  style : Style
  records : Nat
  columns : Nat
  deriving DecidableEq, Repr

/-- How the text of an item names its style. -/
def Style.mark : Style → List Char
  | impulses => " with impulses ".toList
  | yErrorBars => " with yerrorbars ".toList

/-- The style that a text begins with. -/
def style? (text : List Char) : Option Style :=
  [Style.impulses, Style.yErrorBars].find? fun style => style.mark.isPrefixOf text

/-- Reads what the text of an item says of its data: the records behind their mark, the columns as
the number of fields between colons, and the style. -/
def announcement? (text : List Char) : Option Announcement := do
  let rest ← "'-' binary endian=little record=".toList.isPrefixOf? text
  let (records, rest) := splitDigits rest
  let rest ← " format='%float64' using ".toList.isPrefixOf? rest
  let columns := rest.takeWhile fun character => character != ' '
  let style ← style? (rest.dropWhile fun character => character != ' ')
  return ⟨style, digitsValue records, columns.count ':' + 1⟩

/-- The number that bytes denote, the last of them first. -/
def littleEndian : List UInt8 → Nat
  | [] => 0
  | byte :: rest => byte.toNat + 256 * littleEndian rest

/-- Reads a double and gives the bytes that follow it. -/
def readDouble (bytes : List UInt8) : Option (Float × List UInt8) :=
  if bytes.length < 8 then none
  else some (Float.ofBits (UInt64.ofNat (littleEndian (bytes.take 8))), bytes.drop 8)

/-- Reads a number of things one behind the other. -/
def readMany {α : Type} (readOne : List UInt8 → Option (α × List UInt8)) :
    Nat → List UInt8 → Option (List α × List UInt8)
  | 0, bytes => some ([], bytes)
  | count + 1, bytes => do
      let (first, rest) ← readOne bytes
      let (others, rest) ← readMany readOne count rest
      return (first :: others, rest)

/-- Some rows of data and how they are drawn. -/
structure Block where
  style : Style
  rows : List (List Float)

/-- Reads the rows that an item announces. -/
def readBlock (announced : Announcement) (bytes : List UInt8) : Option (Block × List UInt8) := do
  let (rows, rest) ← readMany (readMany readDouble announced.columns) announced.records bytes
  return (⟨announced.style, rows⟩, rest)

/-- Reads the rows of items one after the other. -/
def readBlocks : List Announcement → List UInt8 → Option (List Block × List UInt8)
  | [], bytes => some ([], bytes)
  | announced :: others, bytes => do
      let (block, rest) ← readBlock announced bytes
      let (blocks, rest) ← readBlocks others rest
      return (block :: blocks, rest)

theorem isPrefixOf?_append (front rest : List Char) :
    front.isPrefixOf? (front ++ rest) = some rest := by
  induction front with
  | nil => rfl
  | cons first others ih => simp [List.isPrefixOf?, ih]

theorem style?_append (style : Style) (rest : List Char) :
    style? (style.mark ++ rest) = some style := by
  cases style <;> rfl

/-- The bytes of a number, the last of them first, denote the number. -/
theorem littleEndian_places (count number : Nat) :
    littleEndian ((List.range count).map fun place =>
      (number / Nat.pow 256 place % 256).toUInt8) = number % 256 ^ count := by
  induction count generalizing number with
  | zero => simp [littleEndian, Nat.mod_one]
  | succ count ih =>
      have shifted (place : Nat) :
          number / Nat.pow 256 (place + 1) % 256 = number / 256 / Nat.pow 256 place % 256 := by
        change number / 256 ^ (place + 1) % 256 = number / 256 / 256 ^ place % 256
        rw [Nat.div_div_eq_div_mul, Nat.pow_succ']
      have first : (number / Nat.pow 256 0 % 256).toUInt8.toNat = number % 256 := by
        change number / 1 % 256 % 256 = number % 256
        omega
      simp only [List.range_succ_eq_map, List.map_cons, List.map_map, Function.comp_def,
        Nat.succ_eq_add_one, shifted, littleEndian, ih, first]
      rw [Nat.pow_succ', Nat.mod_mul]

theorem length_bytesOf (value : Float) : (bytesOf value).length = 8 := by
  simp [bytesOf]

theorem readDouble_bytesOf (value : Float) (rest : List UInt8) :
    readDouble (bytesOf value ++ rest) = some (value, rest) := by
  have front : (bytesOf value ++ rest).take 8 = bytesOf value := by
    rw [List.take_append_of_le_length (by rw [length_bytesOf]), ← length_bytesOf value,
      List.take_length]
  have behind : (bytesOf value ++ rest).drop 8 = rest := by
    rw [← length_bytesOf value, List.drop_left]
  have bits : littleEndian (bytesOf value) = value.toBits.toNat := by
    rw [bytesOf, littleEndian_places]
    exact Nat.mod_eq_of_lt value.toBits.toNat_lt
  rw [readDouble, if_neg (by simp [length_bytesOf]), front, behind, bits, UInt64.ofNat_toNat,
    Float.ofBits_toBits]

/-- What is read one by one is read together. -/
theorem readMany_flatMap {α : Type} {readOne : List UInt8 → Option (α × List UInt8)}
    {encode : α → List UInt8} {items : List α}
    (each : ∀ item ∈ items, ∀ rest, readOne (encode item ++ rest) = some (item, rest))
    (rest : List UInt8) :
    readMany readOne items.length (items.flatMap encode ++ rest) = some (items, rest) := by
  induction items with
  | nil => rfl
  | cons first others ih =>
      simp only [List.forall_mem_cons] at each
      simp [readMany, each.1, ih each.2]

/-- A row of the announced length is read as it was written. -/
theorem readRow {columns : Nat} {row : List Float} (length : row.length = columns)
    (rest : List UInt8) :
    readMany readDouble columns (row.flatMap bytesOf ++ rest) = some (row, rest) := by
  rw [← length]
  exact readMany_flatMap (fun value _ => readDouble_bytesOf value) rest

namespace Item

def style : Item → Style
  | bars .. => .impulses
  | errorBars _ => .yErrorBars

/-- What the text of an item announces. -/
def announcement (item : Item) : Announcement :=
  ⟨item.style, item.rows.length, item.columns⟩

/-- The data of an item. -/
def block (item : Item) : Block :=
  ⟨item.style, item.rows⟩

theorem length_of_mem_rows {item : Item} : ∀ row ∈ item.rows, row.length = item.columns := by
  intro row present
  cases item with
  | bars name color drawn =>
      rcases List.mem_map.mp present with ⟨bar, -, rfl⟩
      rfl
  | errorBars drawn =>
      rcases List.mem_map.mp present with ⟨⟨bar, error⟩, -, rfl⟩
      rfl

/-- The data of an item are read as announced. -/
theorem readBlock_values (item : Item) (rest : List UInt8) :
    readBlock item.announcement (item.values.flatMap bytesOf ++ rest) =
      some (item.block, rest) := by
  have eachRow : ∀ row ∈ item.rows, ∀ rest,
      readMany readDouble item.columns (row.flatMap bytesOf ++ rest) = some (row, rest) :=
    fun row present rest => readRow (length_of_mem_rows row present) rest
  have values : item.values.flatMap bytesOf =
      item.rows.flatMap fun row => row.flatMap bytesOf := by
    rw [Item.values, List.flatten_eq_flatMap, List.flatMap_assoc]
    rfl
  rw [values, readBlock, announcement, readMany_flatMap eachRow]
  rfl

/-- The text of an item in the plot line. -/
def text (width : Float) (item : Item) : String :=
  item.source ++ item.drawing width

/-- The fields that an item uses. -/
def fields : Item → List Char
  | bars .. => ['1', ':', '2']
  | errorBars _ => ['1', ':', '2', ':', '3', ':', '4']

theorem toList_fields (item : Item) :
    (":".intercalate ((List.range item.columns).map fun column => toString (column + 1))).toList =
      item.fields := by
  have two : (":".intercalate ((List.range 2).map fun column => toString (column + 1))).toList =
      ['1', ':', '2'] := by decide +kernel
  have four : (":".intercalate ((List.range 4).map fun column => toString (column + 1))).toList =
      ['1', ':', '2', ':', '3', ':', '4'] := by decide +kernel
  cases item with
  | bars name color drawn => exact two
  | errorBars drawn => exact four

theorem toList_source (item : Item) :
    item.source.toList =
      "'-' binary endian=little record=".toList ++ (Nat.toDigits 10 item.rows.length ++
        (" format='%float64' using ".toList ++ item.fields)) := by
  unfold source
  simp only [String.toList_append, toList_fields, List.append_assoc]
  rw [Nat.toString_eq_repr, Nat.toList_repr]

theorem exists_drawing (width : Float) (item : Item) :
    ∃ rest, (item.drawing width).toList = item.style.mark ++ rest := by
  cases item with
  | bars name color drawn =>
      have front : " with impulses lt 1 lw ".toList = Style.impulses.mark ++ "lt 1 lw ".toList := by
        decide
      unfold drawing
      simp only [String.toList_append, List.append_assoc, front]
      exact ⟨_, rfl⟩
  | errorBars drawn =>
      have front : " with yerrorbars lt 1 lw 1.5 lc rgb 'black' ps 0.5 notitle".toList =
          Style.yErrorBars.mark ++ "lt 1 lw 1.5 lc rgb 'black' ps 0.5 notitle".toList := by
        decide
      exact ⟨_, front⟩

/-- The text of an item announces its data. -/
theorem announcement?_text (width : Float) (item : Item) :
    announcement? (item.text width).toList = some item.announcement := by
  rcases item.exists_drawing width with ⟨rest, drawing⟩
  have ends : Json.EndsNumber
      (" format='%float64' using ".toList ++ (item.fields ++ (item.style.mark ++ rest))) :=
    Json.endsNumber_cons (by decide) _
  have fields : (item.fields ++ (item.style.mark ++ rest)).takeWhile (· != ' ') = item.fields := by
    cases item <;> rfl
  have behind : (item.fields ++ (item.style.mark ++ rest)).dropWhile (· != ' ') =
      item.style.mark ++ rest := by
    cases item <;> rfl
  unfold text announcement?
  rw [String.toList_append, toList_source, drawing]
  simp only [List.append_assoc, isPrefixOf?_append, Option.bind_eq_bind, Option.bind_some,
    Json.splitDigits_append ends, Json.splitDigits_toDigits, List.nil_append, fields, behind,
    style?_append, Json.digitsValue_toDigits]
  cases item <;> rfl

end Item

/-- The data of items are read item by item, and nothing is left. -/
theorem readBlocks_values (items : List Item) (rest : List UInt8) :
    readBlocks (items.map Item.announcement)
        ((items.flatMap Item.values).flatMap bytesOf ++ rest) =
      some (items.map Item.block, rest) := by
  induction items with
  | nil => rfl
  | cons item others ih =>
      simp [readBlocks, Item.readBlock_values, ih]

end SampleChart.Chart
