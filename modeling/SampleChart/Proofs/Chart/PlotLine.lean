import SampleChart.Proofs.Chart.Framing
import SampleChart.Proofs.Chart.Literals
import SampleChart.Proofs.Decimal.Finite

/-!
# The plot line

Behind the commands that set up a figure the script has one line that lists the items, and behind
this line the data. `readPlot` takes both apart as they come: the line ends at the first line feed,
its items are cut at the commas that stand outside of single quotes, every item has to announce its
data, and no data may be left. A name stands between quotes, so that a comma in it separates
nothing. A quote in it would end the literal too early, though, and a line feed would end the line.
-/

namespace SampleChart.Chart

open Text.Characters (consFirst)

/-- The pieces between the commas outside of single quotes. The flag tells whether the text is read
from inside of quotes. -/
def cutItems : Bool → List Char → List (List Char)
  | _, [] => [[]]
  | quoted, character :: rest =>
      if character = ',' ∧ quoted = false then [] :: cutItems false rest
      else consFirst character (cutItems (if character = '\'' then !quoted else quoted) rest)

/-- What the items of a plot line announce, of which an empty line has none. -/
def announcements? (line : List Char) : Option (List Announcement) :=
  if line.isEmpty then some []
  else do
    let listed ← "plot ".toList.isPrefixOf? line
    ((cutItems false listed).map fun item => item.dropWhile (· = ' ')).mapM announcement?

/-- Reads a plot line and the data behind it, of which nothing may be left. -/
def readPlot (bytes : List UInt8) : Option (List Block) := do
  let lineBytes := bytes.takeWhile (· != 0x0a)
  let line ← String.fromUTF8? ⟨lineBytes.toArray⟩
  let announced ← announcements? line.toList
  let (blocks, rest) ← readBlocks announced (bytes.drop (lineBytes.length + 1))
  if rest.isEmpty then some blocks else none

section Cut

/-- A text belongs as a whole to the item in which it stands. It is read from inside of quotes or
from outside, and what follows it likewise. -/
def Passes (quoted : Bool) (text : List Char) (after : Bool) : Prop :=
  ∀ rest, cutItems quoted (text ++ rest) = text.foldr consFirst (cutItems after rest)

variable {quoted between after : Bool} {text left right : List Char}

theorem Passes.append (first : Passes quoted left between) (second : Passes between right after) :
    Passes quoted (left ++ right) after := by
  intro rest
  rw [List.append_assoc, first, second, List.foldr_append]

/-- Outside of quotes a text passes that has neither a quote nor a comma. -/
theorem passes_of_unmarked (unquoted : '\'' ∉ text) (noComma : ',' ∉ text) :
    Passes false text false := by
  intro rest
  induction text with
  | nil => rfl
  | cons character others ih =>
      rw [List.mem_cons, not_or] at unquoted noComma
      rw [List.cons_append, cutItems, if_neg (by simp [Ne.symm noComma.1]),
        if_neg (Ne.symm unquoted.1), ih unquoted.2 noComma.2]
      rfl

/-- Inside of quotes a text passes that has no quote. -/
theorem passes_of_unquoted (unquoted : '\'' ∉ text) : Passes true text true := by
  intro rest
  induction text with
  | nil => rfl
  | cons character others ih =>
      rw [List.mem_cons, not_or] at unquoted
      rw [List.cons_append, cutItems, if_neg (by simp), if_neg (Ne.symm unquoted.1),
        ih unquoted.2]
      rfl

theorem passes_quote (quoted : Bool) : Passes quoted ['\''] !quoted := by
  intro rest
  rw [List.singleton_append, cutItems, if_neg (by simp), if_pos rfl]
  rfl

theorem passes_literal {text : String} (unquoted : '\'' ∉ text.toList) :
    Passes false (literal text).toList false := by
  have whole := (passes_quote false).append
    ((passes_of_unquoted unquoted).append (passes_quote true))
  simpa [literal] using whole

/-- Texts that pass are the items of the list to which they are joined, with a blank in front of all
but the first. -/
theorem cutItems_intercalate {first : String} {others : List String}
    (pass : ∀ text ∈ first :: others, Passes false text.toList false) :
    cutItems false (", ".intercalate (first :: others)).toList =
      first.toList :: others.map fun text => ' ' :: text.toList := by
  induction others generalizing first with
  | nil =>
      have alone := pass first List.mem_cons_self []
      simpa [cutItems, foldr_consFirst] using alone
  | cons second later ih =>
      rw [String.intercalate_cons_cons, String.toList_append, String.toList_append,
        List.append_assoc, pass first List.mem_cons_self]
      have further := ih fun text listed => pass text (List.mem_cons_of_mem _ listed)
      have cut : cutItems false (", ".toList ++ (", ".intercalate (second :: later)).toList) =
          [] :: consFirst ' ' (cutItems false (", ".intercalate (second :: later)).toList) := rfl
      rw [cut, further, foldr_consFirst, List.append_nil]
      rfl

end Cut

section Items

theorem Color.not_mem_text {mark : Char} (notHash : mark ≠ '#')
    (notHex : ∀ value, Nat.digitChar value ≠ mark) (color : Color) : mark ∉ color.text.toList := by
  have byte (value : Nat) : mark ∉ (hexByte value).toList := by
    simp [hexByte, (notHex _).symm]
  unfold Color.text
  simp [byte, notHash]

/-- An underscore is escaped by a backslash, so that no other character comes in. -/
theorem not_mem_escapeUnderscores {mark : Char} (notBackslash : mark ≠ '\\') {text : String}
    (absent : mark ∉ text.toList) : mark ∉ (escapeUnderscores text).toList := by
  rw [← List.count_eq_zero, count_escapeUnderscores notBackslash, List.count_eq_zero]
  exact absent

namespace Item

/-- The name of a series that an item draws, which error bars do not have. -/
def name? : Item → Option String
  | bars name _ _ => some name
  | errorBars _ => none

variable {item : Item}

theorem passes_source (item : Item) : Passes false item.source.toList false := by
  have noQuote : '\'' ∉ item.fields := by
    cases item <;> simp [fields]
  have noComma : ',' ∉ item.fields := by
    cases item <;> simp [fields]
  have source_eq : item.source.toList =
      (literal "-").toList ++ ((" binary endian=little record=".toList ++
        (Nat.toDigits 10 item.rows.length ++ " format=".toList)) ++
          ((literal "%float64").toList ++ (" using ".toList ++ item.fields))) := by
    rw [toList_source]
    simp [literal]
  rw [source_eq]
  refine (passes_literal (by decide)).append (.append (passes_of_unmarked ?_ ?_)
    ((passes_literal (by decide)).append (passes_of_unmarked ?_ ?_)))
  · simp [Decimal.not_mem_toDigits]
  · simp [Decimal.not_mem_toDigits]
  · simp [noQuote]
  · simp [noComma]

/-- The text of an item is cut nowhere if the name in it has no quote. -/
theorem passes_text (width : Float) (unquoted : ∀ name ∈ item.name?, '\'' ∉ name.toList) :
    Passes false (item.text width).toList false := by
  rw [text, String.toList_append]
  refine (passes_source item).append ?_
  cases item with
  | bars name color drawn =>
      have unquotedColor : '\'' ∉ color.text.toList :=
        color.not_mem_text (by decide) fun _ => Nat.digitChar_ne '\'' (by decide)
      have unquotedName := not_mem_escapeUnderscores (by decide) (unquoted name rfl)
      have colored := passes_literal unquotedColor
      have named := passes_literal unquotedName
      have front : Passes false (" with impulses lt 1 lw " ++ Decimal.plain.text width ++
          " lc rgb ").toList false := by
        refine passes_of_unmarked ?_ ?_
        · simp [Decimal.not_mem_plain]
        · simp [Decimal.not_mem_plain]
      have gap : Passes false " title ".toList false :=
        passes_of_unmarked (by decide) (by decide)
      have whole := front.append (colored.append (gap.append named))
      unfold drawing
      simpa only [String.toList_append, List.append_assoc] using whole
  | errorBars drawn =>
      have front : Passes false " with yerrorbars lt 1 lw 1.5 lc rgb ".toList false :=
        passes_of_unmarked (by decide) (by decide)
      have colored : Passes false (literal "black").toList false := passes_literal (by decide)
      have behind : Passes false " ps 0.5 notitle".toList false :=
        passes_of_unmarked (by decide) (by decide)
      have whole := front.append (colored.append behind)
      have drawing_eq : (drawing width (errorBars drawn)).toList =
          " with yerrorbars lt 1 lw 1.5 lc rgb ".toList ++
            ((literal "black").toList ++ " ps 0.5 notitle".toList) :=
        (by decide : " with yerrorbars lt 1 lw 1.5 lc rgb 'black' ps 0.5 notitle".toList = _)
      rwa [drawing_eq]

theorem dropWhile_text (width : Float) (item : Item) :
    (item.text width).toList.dropWhile (· = ' ') = (item.text width).toList := by
  rw [text, String.toList_append, toList_source]
  rfl

theorem lineFeed_not_mem_text (width : Float) (inLine : ∀ name ∈ item.name?, '\n' ∉ name.toList) :
    '\n' ∉ (item.text width).toList := by
  have source : '\n' ∉ item.source.toList := by
    have fields : '\n' ∉ item.fields := by
      cases item <;> simp [Item.fields]
    rw [toList_source]
    simp [Decimal.not_mem_toDigits, fields]
  have drawing : '\n' ∉ (item.drawing width).toList := by
    cases item with
    | bars name color drawn =>
        have notInColor : '\n' ∉ color.text.toList :=
          color.not_mem_text (by decide) fun _ => Nat.digitChar_ne '\n' (by decide)
        have notInName := not_mem_escapeUnderscores (by decide) (inLine name rfl)
        unfold Item.drawing literal
        simp [Decimal.not_mem_plain, notInColor, notInName]
    | errorBars drawn =>
        exact (by decide :
          '\n' ∉ " with yerrorbars lt 1 lw 1.5 lc rgb 'black' ps 0.5 notitle".toList)
  rw [text, String.toList_append, List.mem_append, not_or]
  exact ⟨source, drawing⟩

end Item

theorem mapM_announcement? (width : Float) (items : List Item) :
    (items.map fun item => (item.text width).toList).mapM announcement? =
      some (items.map Item.announcement) := by
  induction items with
  | nil => rfl
  | cons item others ih => simp [ih, Item.announcement?_text]

/-- A plot line announces the data of its items. -/
theorem announcements?_plotCommand (width : Float) {items : List Item}
    (unquoted : ∀ item ∈ items, ∀ name ∈ item.name?, '\'' ∉ name.toList) :
    announcements? (plotCommand width items).toList = some (items.map Item.announcement) := by
  cases items with
  | nil => rfl
  | cons first others =>
      have pass : ∀ text ∈ first.text width :: others.map (Item.text width),
          Passes false text.toList false := by
        intro text listed
        rcases List.mem_map.mp (List.map_cons ▸ listed) with ⟨item, isItem, rfl⟩
        exact item.passes_text width (unquoted item isItem)
      have line : (plotCommand width (first :: others)).toList = "plot ".toList ++
          (", ".intercalate (first.text width :: others.map (Item.text width))).toList := by
        unfold plotCommand
        rw [String.toList_append]
        rfl
      have trimmed : (cutItems false
          (", ".intercalate (first.text width :: others.map (Item.text width))).toList).map
            (fun item => item.dropWhile (· = ' ')) =
          (first :: others).map fun item => (item.text width).toList := by
        rw [cutItems_intercalate pass]
        simp [Item.dropWhile_text]
      have nonempty : ("plot ".toList ++ (", ".intercalate
          (first.text width :: others.map (Item.text width))).toList).isEmpty = false := rfl
      rw [line, announcements?, nonempty, isPrefixOf?_append, Option.bind_eq_bind, Option.bind_some,
        trimmed, mapM_announcement?]
      rfl

theorem lineFeed_not_mem_plotCommand (width : Float) {items : List Item}
    (inLine : ∀ item ∈ items, ∀ name ∈ item.name?, '\n' ∉ name.toList) :
    '\n' ∉ (plotCommand width items).toList := by
  have joined (texts : List String) (each : ∀ text ∈ texts, '\n' ∉ text.toList) :
      '\n' ∉ (", ".intercalate texts).toList := by
    induction texts with
    | nil => decide
    | cons first others ih =>
        simp only [List.forall_mem_cons] at each
        cases others with
        | nil => simpa using each.1
        | cons second later =>
            rw [String.intercalate_cons_cons]
            simpa [each.1] using ih each.2
  cases items with
  | nil => exact (by decide : '\n' ∉ "".toList)
  | cons first others =>
      have listed := joined ((first :: others).map (Item.text width)) fun text isText => by
        rcases List.mem_map.mp isText with ⟨item, isItem, rfl⟩
        exact item.lineFeed_not_mem_text width (inLine item isItem)
      unfold plotCommand
      rw [String.toList_append, List.mem_append, not_or]
      exact ⟨by decide, listed⟩

end Items

section Bytes

theorem ne_lineFeed_of_or (part : UInt8) {mask : UInt8} (high : 128 ≤ mask) :
    0x0a ≠ part ||| mask := by
  intro same
  have bound : mask ≤ part ||| mask := UInt8.right_le_or
  rw [← same] at bound
  exact absurd (UInt8.le_trans high bound) (by decide)

/-- No other character than a line feed has the byte of one. -/
theorem lineFeed_not_mem_utf8EncodeChar {character : Char} (other : character ≠ '\n') :
    0x0a ∉ String.utf8EncodeChar character := by
  rcases Char.utf8Size_eq character with one | two | three | four
  · rw [String.utf8EncodeChar_eq_singleton one, List.mem_singleton]
    intro same
    have small : character.val.toNat ≤ 127 :=
      UInt32.le_iff_toNat_le.mp (Char.utf8Size_eq_one_iff.mp one)
    have code : character.val.toNat % 256 = 10 := (congrArg UInt8.toNat same).symm
    have isLineFeed : character.val.toNat = 10 := by omega
    exact other (Char.ext (UInt32.toNat_inj.mp isLineFeed))
  · simp [String.utf8EncodeChar_eq_cons_cons two, ne_lineFeed_of_or]
  · simp [String.utf8EncodeChar_eq_cons_cons_cons three, ne_lineFeed_of_or]
  · simp [String.utf8EncodeChar_eq_cons_cons_cons_cons four, ne_lineFeed_of_or]

theorem toList_toUTF8 (text : String) :
    text.toUTF8.data.toList = text.toList.flatMap String.utf8EncodeChar := by
  rw [String.toUTF8_eq_toByteArray]
  conv => lhs; rw [← String.ofList_toList (s := text)]
  rw [String.toByteArray_ofList]
  simp [List.utf8Encode]

variable {line : String} {announced : List Announcement} {data : List UInt8} {blocks : List Block}

/-- A line that announces its data is read with them. -/
theorem readPlot_of_announced (inLine : '\n' ∉ line.toList)
    (announces : announcements? line.toList = some announced)
    (follow : readBlocks announced data = some (blocks, [])) :
    readPlot ((line ++ "\n").toUTF8.data.toList ++ data) = some blocks := by
  have ended : (line ++ "\n").toUTF8.data.toList ++ data =
      line.toUTF8.data.toList ++ 0x0a :: data := by
    simp only [toList_toUTF8, String.toList_append, List.flatMap_append, List.append_assoc]
    rfl
  have inBytes : ∀ byte ∈ line.toUTF8.data.toList, (byte != 0x0a) = true := by
    intro byte present
    rw [toList_toUTF8] at present
    rcases List.mem_flatMap.mp present with ⟨character, inText, encoded⟩
    apply bne_iff_ne.mpr
    rintro rfl
    have other : character ≠ '\n' := by
      rintro rfl
      exact inLine inText
    exact lineFeed_not_mem_utf8EncodeChar other encoded
  have front : (line.toUTF8.data.toList ++ 0x0a :: data).takeWhile (· != 0x0a) =
      line.toUTF8.data.toList := by
    rw [List.takeWhile_append_of_pos inBytes]
    simp
  have behind : (line.toUTF8.data.toList ++ 0x0a :: data).drop
      (line.toUTF8.data.toList.length + 1) = data := by
    rw [List.drop_length_add_append]
    rfl
  have decoded : String.fromUTF8? ⟨line.toUTF8.data.toList.toArray⟩ = some line :=
    dif_pos line.isValidUTF8
  rw [ended, readPlot, front, behind, decoded]
  simp [announces, follow]

end Bytes

end SampleChart.Chart
