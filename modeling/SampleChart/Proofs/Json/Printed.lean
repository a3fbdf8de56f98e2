import SampleChart.Json.Printer
import SampleChart.Proofs.Json.Leaves
import SampleChart.Proofs.Json.Numbers
import SampleChart.Proofs.Json.Strings

/-!
# Printed values

The text of a value is read as the value it stands for, in any spacing of blanks. That the reader
stops where the value ends needs an assumption on what follows only for numbers, which further
digits would continue. Twice as many steps as the text has characters are enough: one step takes a
comma and an item, and another one the item itself.
-/

namespace SampleChart.Json

/-- The digits that are written for a double are read as this double. -/
def ReadsBack (number : Float) : Prop :=
  readNumber (Decimal.document.text number).toList = some (.real number, [])

namespace Value

/-- Whether a number is read as it was printed: an integer fits 64 bits, and the digits of a finite
double are read as this double. -/
def IsPrintable : Value → Prop
  | integer number => -(2 ^ 63) ≤ number ∧ number < 2 ^ 64
  | real number => number.isFinite = true → ReadsBack number
  | _ => True

end Value

/-- Whether a spacing puts only blanks between what it prints. -/
def Spacing.IsBlank (spacing : Spacing) : Prop :=
  (∀ depth, ∀ character ∈ spacing.newline depth, isBlank character = true) ∧
    ∀ character ∈ spacing.gap, isBlank character = true

theorem isBlank_pretty : pretty.IsBlank := by
  simp [Spacing.IsBlank, pretty, Json.isBlank]

theorem skipBlanks_append {blanks : List Char}
    (blank : ∀ character ∈ blanks, isBlank character = true) (text : List Char) :
    skipBlanks (blanks ++ text) = skipBlanks text :=
  List.dropWhile_append_of_pos blank

theorem skipBlanks_cons {first : Char} (notBlank : isBlank first = false) (text : List Char) :
    skipBlanks (first :: text) = first :: text := by
  simp [skipBlanks, notBlank]

/-- Blanks in front of a value are passed over. -/
theorem readValue_append {blanks : List Char}
    (blank : ∀ character ∈ blanks, isBlank character = true) (steps : Nat) (text : List Char) :
    readValue steps (blanks ++ text) = readValue steps text := by
  cases steps with
  | zero => simp [readValue]
  | succ steps => simp only [readValue, skipBlanks_append blank]

/-- A text begins like a value: with neither a blank nor the bracket that closes an array. -/
def OpensValue (text : List Char) : Prop :=
  ∃ first ∈ text.head?, isBlank first = false ∧ first ≠ ']'

theorem OpensValue.append {text : List Char} (opens : OpensValue text) (rest : List Char) :
    OpensValue (text ++ rest) := by
  rcases opens with ⟨first, isFirst, opens⟩
  refine ⟨first, ?_, opens⟩
  rw [List.head?_append, Option.mem_def.mp isFirst]
  rfl

theorem isBlank_of_number {first : Char} (opens : first = '-' ∨ first.isDigit = true) :
    isBlank first = false := by
  simp only [isBlank, Bool.or_eq_false_iff, decide_eq_false_iff_not]
  refine ⟨⟨⟨?_, ?_⟩, ?_⟩, ?_⟩ <;> rintro rfl <;> simp at opens

theorem opensValue_of_readNumber {text left : List Char} {value : Value}
    (read : readNumber text = some (value, left)) : OpensValue text := by
  rcases head_of_readNumber read with ⟨first, others, rfl, opens⟩
  refine ⟨first, rfl, isBlank_of_number opens, ?_⟩
  rintro rfl
  simp at opens

theorem readValue_of_number {first : Char} (opens : first = '-' ∨ first.isDigit = true)
    (steps : Nat) (text : List Char) :
    readValue (steps + 1) (first :: text) = readNumber (first :: text) := by
  rw [readValue, skipBlanks_cons (isBlank_of_number opens)]
  split
  next => simp_all
  next => simp_all
  next => simp_all
  next => simp_all
  next => simp_all
  next => simp_all
  next => rfl

namespace Value

/-- A printed value is read as what it stands for, in front of a text that continues no number. -/
def ReadsAsPrinted (spacing : Spacing) (value : Value) : Prop :=
  ∀ {steps depth : Nat} {rest : List Char}, EndsNumber rest →
    2 * (value.print spacing depth).length ≤ steps →
    readValue steps (value.print spacing depth ++ rest) = some (value.asRead, rest)

/-- One step is enough for a value that is neither an array nor an object. -/
theorem readsAsPrinted_of_step {spacing : Spacing} {value : Value} {text : List Char}
    (printed : ∀ depth, value.print spacing depth = text) (nonempty : text ≠ [])
    (read : ∀ steps rest, EndsNumber rest →
      readValue (steps + 1) (text ++ rest) = some (value.asRead, rest)) :
    value.ReadsAsPrinted spacing := by
  intro steps depth rest ends enough
  rw [printed] at enough ⊢
  have positive := List.length_pos_iff.mpr nonempty
  obtain ⟨fewer, rfl⟩ : ∃ fewer, steps = fewer + 1 := ⟨steps - 1, by omega⟩
  exact read fewer rest ends

theorem readsAsPrinted_of_number {spacing : Spacing} {value : Value} {text : List Char}
    (printed : ∀ depth, value.print spacing depth = text)
    (read : readNumber text = some (value.asRead, [])) : value.ReadsAsPrinted spacing := by
  rcases head_of_readNumber read with ⟨first, others, rfl, opens⟩
  apply readsAsPrinted_of_step printed (List.cons_ne_nil first others)
  intro steps rest ends
  rw [List.cons_append, readValue_of_number opens]
  exact readNumber_append ends read

theorem opensValue_print {value : Value} (printable : value.EachLeaf IsPrintable)
    (spacing : Spacing) (depth : Nat) : OpensValue (value.print spacing depth) := by
  cases value with
  | null => exact ⟨_, rfl, by decide⟩
  | boolean value => cases value <;> exact ⟨_, rfl, by decide⟩
  | integer number =>
      exact opensValue_of_readNumber (readNumber_toString printable.1 printable.2)
  | real number =>
      by_cases finite : number.isFinite = true
      · rw [print, if_pos finite]
        exact opensValue_of_readNumber (printable finite)
      · rw [print, if_neg finite]
        exact ⟨_, rfl, by decide⟩
  | string text => exact ⟨_, rfl, by decide⟩
  | array items => cases items <;> exact ⟨_, rfl, by decide⟩
  | object fields => cases fields <;> exact ⟨_, rfl, by decide⟩
  | unreadable => exact ⟨_, rfl, by decide⟩

theorem endsNumber_blanks {blanks : List Char}
    (blank : ∀ character ∈ blanks, isBlank character = true) {mark : Char}
    (other : continuesNumber mark = false) (rest : List Char) :
    EndsNumber (blanks ++ mark :: rest) := by
  cases blanks with
  | nil => exact endsNumber_cons other rest
  | cons first others =>
      have isBlank := blank first (by simp)
      apply endsNumber_cons
      simp only [Json.isBlank, Bool.or_eq_true, decide_eq_true_eq] at isBlank
      rcases isBlank with ((rfl | rfl) | rfl) | rfl <;> decide

end Value

theorem readItems_append {blanks : List Char}
    (blank : ∀ character ∈ blanks, isBlank character = true) (steps : Nat) (text : List Char) :
    readItems steps (blanks ++ text) = readItems steps text := by
  cases steps with
  | zero => simp [readItems]
  | succ steps => simp only [readItems, readValue_append blank]

/-- The items of an array begin behind the blanks that follow its bracket. -/
theorem readValue_array {blanks text : List Char}
    (blank : ∀ character ∈ blanks, isBlank character = true) (opens : OpensValue text)
    (steps : Nat) :
    readValue (steps + 1) ('[' :: (blanks ++ text)) =
      (readItems steps text).map fun (items, rest) => (.array items, rest) := by
  rcases opens with ⟨first, isFirst, notBlank, notBracket⟩
  rcases text with _ | ⟨_, others⟩
  · cases isFirst
  · cases isFirst
    rw [readValue, skipBlanks_cons (by decide)]
    simp only [skipBlanks_append blank, skipBlanks_cons notBlank]
    split
    next isBracket => exact absurd (List.cons.inj isBracket).1 notBracket
    next => rfl

/-- The fields of an object begin behind the blanks that follow its bracket. -/
theorem readValue_object {blanks : List Char}
    (blank : ∀ character ∈ blanks, isBlank character = true) (name : String) (text : List Char)
    (steps : Nat) :
    readValue (steps + 1) ('\x7b' :: (blanks ++ (literal name ++ text))) =
      (readFields steps (literal name ++ text)).map
        fun (fields, rest) => (objectOf fields, rest) := by
  have front : skipBlanks (literal name ++ text) = literal name ++ text :=
    skipBlanks_cons (by decide) _
  rw [readValue, skipBlanks_cons (by decide)]
  simp only [skipBlanks_append blank, front]
  rfl

namespace Value

variable {spacing : Spacing}

/-- The items of an array are read up to the bracket that closes it. -/
theorem readItems_printed (blank : spacing.IsBlank) {first : Value} {items : List Value}
    (each : ∀ item ∈ first :: items, item.ReadsAsPrinted spacing) {steps depth : Nat}
    {blanks : List Char} (closing : ∀ character ∈ blanks, isBlank character = true)
    (rest : List Char)
    (enough : 2 * (first.print spacing depth ++ printItems spacing depth items).length + 1 ≤
      steps) :
    readItems steps
        (first.print spacing depth ++ (printItems spacing depth items ++ (blanks ++ ']' :: rest))) =
      some ((first :: items).map asRead, rest) := by
  induction items generalizing first steps with
  | nil =>
      obtain ⟨fewer, rfl⟩ : ∃ fewer, steps = fewer + 1 := ⟨steps - 1, by omega⟩
      simp only [printItems, List.append_nil] at enough
      rw [printItems, List.nil_append, readItems,
        each first (by simp) (endsNumber_blanks closing (by decide) rest) (by omega)]
      simp [skipBlanks_append closing, skipBlanks_cons, isBlank]
  | cons next others ih =>
      obtain ⟨fewer, rfl⟩ : ∃ fewer, steps = fewer + 1 := ⟨steps - 1, by omega⟩
      simp only [printItems, List.length_append, List.length_cons] at enough
      have enoughForOthers :
          2 * (next.print spacing depth ++ printItems spacing depth others).length + 1 ≤ fewer := by
        simp only [List.length_append]
        omega
      have readOthers :=
        ih (fun item present => each item (List.mem_cons_of_mem first present)) enoughForOthers
      simp only [printItems, List.cons_append, List.append_assoc]
      rw [readItems, each first (by simp) (endsNumber_cons (by decide) _) (by omega)]
      simp [skipBlanks_cons, isBlank, readItems_append (blank.1 depth), readOthers]

theorem readFields_append {blanks : List Char}
    (blank : ∀ character ∈ blanks, isBlank character = true) (steps : Nat) (text : List Char) :
    readFields steps (blanks ++ text) = readFields steps text := by
  cases steps with
  | zero => simp [readFields]
  | succ steps => simp only [readFields, skipBlanks_append blank]

/-- A field that a comma follows is read, and then the others. -/
theorem readFields_of_comma (blank : spacing.IsBlank) (name : String) {steps : Nat} {value : Value}
    {text behind more : List Char} (read : readValue steps text = some (value, behind))
    (front : skipBlanks behind = ',' :: more) :
    readFields (steps + 1) (literal name ++ (':' :: (spacing.gap ++ text))) =
      (readFields steps more).map fun (fields, rest) => ((some name, value) :: fields, rest) := by
  have readName := readString_escaped name (':' :: (spacing.gap ++ text))
  rw [readFields]
  simp [literal, skipBlanks_cons, isBlank, readName, readValue_append blank.2, read, front]
  cases readFields steps more <;> rfl

/-- A field that the closing bracket follows is the last one. -/
theorem readFields_of_bracket (blank : spacing.IsBlank) (name : String) {steps : Nat}
    {value : Value} {text behind more : List Char}
    (read : readValue steps text = some (value, behind))
    (front : skipBlanks behind = '\x7d' :: more) :
    readFields (steps + 1) (literal name ++ (':' :: (spacing.gap ++ text))) =
      some ([(some name, value)], more) := by
  have readName := readString_escaped name (':' :: (spacing.gap ++ text))
  rw [readFields]
  simp [literal, skipBlanks_cons, isBlank, readName, readValue_append blank.2, read, front]

/-- The fields of an object are read up to the bracket that closes it. -/
theorem readFields_printed (blank : spacing.IsBlank) {name : String} {first : Value}
    {fields : List (String × Value)}
    (each : ∀ field ∈ (name, first) :: fields, field.2.ReadsAsPrinted spacing) {steps depth : Nat}
    {blanks : List Char} (closing : ∀ character ∈ blanks, isBlank character = true)
    (rest : List Char)
    (enough : 2 * (first.print spacing depth ++ printFields spacing depth fields).length + 1 ≤
      steps) :
    readFields steps
        (literal name ++ (':' :: (spacing.gap ++ (first.print spacing depth ++
          (printFields spacing depth fields ++ (blanks ++ '\x7d' :: rest)))))) =
      some (((name, first) :: fields).map fun field => (some field.1, field.2.asRead), rest) := by
  induction fields generalizing name first steps with
  | nil =>
      obtain ⟨fewer, rfl⟩ : ∃ fewer, steps = fewer + 1 := ⟨steps - 1, by omega⟩
      simp only [printFields, List.append_nil] at enough
      have enoughForFirst : 2 * (first.print spacing depth).length ≤ fewer := by omega
      have brace : continuesNumber '\x7d' = false := by decide
      have readFirst := each (name, first) (by simp)
        (endsNumber_blanks closing brace rest) enoughForFirst
      rw [printFields, List.nil_append]
      apply readFields_of_bracket blank name readFirst
      rw [skipBlanks_append closing, skipBlanks_cons (by decide)]
  | cons next others ih =>
      rcases next with ⟨nextName, next⟩
      obtain ⟨fewer, rfl⟩ : ∃ fewer, steps = fewer + 1 := ⟨steps - 1, by omega⟩
      simp only [printFields, List.length_append, List.length_cons] at enough
      have enoughForFirst : 2 * (first.print spacing depth).length ≤ fewer := by omega
      have enoughForOthers :
          2 * (next.print spacing depth ++ printFields spacing depth others).length + 1 ≤
            fewer := by
        simp only [List.length_append]
        omega
      have readOthers :=
        ih (fun field present => each field (List.mem_cons_of_mem _ present)) enoughForOthers
      have comma : continuesNumber ',' = false := by decide
      simp only [printFields, List.cons_append, List.append_assoc]
      rw [readFields_of_comma blank name
        (each (name, first) (by simp) (endsNumber_cons comma _) enoughForFirst)
        (skipBlanks_cons (by decide) _), readFields_append (blank.1 depth), readOthers]
      rfl

theorem objectOf_named (fields : List (String × Value)) :
    objectOf (fields.map fun field => (some field.1, field.2.asRead)) =
      object (fieldsAsRead fields) := by
  have named : (fields.map fun field => (some field.1, field.2.asRead)).mapM
      (fun field => field.1.map fun name => (name, field.2)) = some (fieldsAsRead fields) := by
    induction fields with
    | nil => rfl
    | cons field rest ih => simp [fieldsAsRead, ih]
  rw [objectOf]
  split
  next found read => exact congrArg object (Option.some.inj (read.symm.trans named))
  next unread => cases unread.symm.trans named

/-- An array is read as it was printed if this holds of its items. -/
theorem readsAsPrinted_array (blank : spacing.IsBlank) {items : List Value}
    (printable : ∀ item ∈ items, item.EachLeaf IsPrintable)
    (each : ∀ item ∈ items, item.ReadsAsPrinted spacing) :
    (array items).ReadsAsPrinted spacing := by
  cases items with
  | nil => exact readsAsPrinted_of_step (fun _ => rfl) (by simp) fun _ _ _ => rfl
  | cons item items =>
      intro steps depth rest ends enough
      simp only [print, List.length_append, List.length_cons] at enough
      obtain ⟨fewer, rfl⟩ : ∃ fewer, steps = fewer + 1 := ⟨steps - 1, by omega⟩
      have enoughForItems :
          2 * (item.print spacing (depth + 1) ++ printItems spacing (depth + 1) items).length + 1 ≤
            fewer := by
        simp only [List.length_append]
        omega
      have opens := opensValue_print (printable item (by simp)) spacing (depth + 1)
      simp only [print, List.cons_append, List.append_assoc, List.nil_append]
      rw [readValue_array (blank.1 (depth + 1)) (opens.append _),
        readItems_printed blank each (blank.1 depth) rest enoughForItems, asRead,
        itemsAsRead_eq_map]
      rfl

/-- An object is read as it was printed if this holds of the values of its fields. -/
theorem readsAsPrinted_object (blank : spacing.IsBlank) {fields : List (String × Value)}
    (each : ∀ field ∈ fields, field.2.ReadsAsPrinted spacing) :
    (object fields).ReadsAsPrinted spacing := by
  rcases fields with _ | ⟨⟨name, value⟩, fields⟩
  · exact readsAsPrinted_of_step (fun _ => rfl) (by simp) fun _ _ _ => rfl
  · intro steps depth rest ends enough
    simp only [print, List.length_append, List.length_cons] at enough
    obtain ⟨fewer, rfl⟩ : ∃ fewer, steps = fewer + 1 := ⟨steps - 1, by omega⟩
    have enoughForFields :
        2 * (value.print spacing (depth + 1) ++ printFields spacing (depth + 1) fields).length +
          1 ≤ fewer := by
      simp only [List.length_append]
      omega
    simp only [print, List.cons_append, List.append_assoc, List.nil_append]
    rw [readValue_object (blank.1 (depth + 1)),
      readFields_printed blank each (blank.1 depth) rest enoughForFields]
    simp only [Option.map_some, objectOf_named, asRead]

/-- A value whose numbers can be read again is read as it was printed. -/
theorem readsAsPrinted (blank : spacing.IsBlank) {value : Value}
    (printable : value.EachLeaf IsPrintable) : value.ReadsAsPrinted spacing := by
  induction value using nestedInduction with
  | null => exact readsAsPrinted_of_step (fun _ => rfl) (by simp) fun _ _ _ => rfl
  | boolean value =>
      cases value <;> exact readsAsPrinted_of_step (fun _ => rfl) (by simp) fun _ _ _ => rfl
  | integer number =>
      exact readsAsPrinted_of_number (fun _ => rfl) (readNumber_toString printable.1 printable.2)
  | real number =>
      by_cases finite : number.isFinite = true
      · have printed (depth : Nat) : (real number).print spacing depth =
            (Decimal.document.text number).toList := by rw [print, if_pos finite]
        apply readsAsPrinted_of_number printed
        rw [asRead, if_pos finite]
        exact printable finite
      · have printed (depth : Nat) :
            (real number).print spacing depth = ['n', 'u', 'l', 'l'] := by rw [print, if_neg finite]
        apply readsAsPrinted_of_step printed (by simp)
        intro steps rest ends
        rw [asRead, if_neg finite]
        rfl
  | string text =>
      apply readsAsPrinted_of_step (fun _ => rfl) (by simp)
      intro steps rest ends
      have readText := readString_escaped text rest
      rw [readValue]
      simp [skipBlanks_cons, isBlank, readText, asRead]
  | array items ih =>
      rw [eachLeaf_array_iff] at printable
      exact readsAsPrinted_array blank printable
        fun item present => ih item present (printable item present)
  | object fields ih =>
      rw [eachLeaf_object_iff] at printable
      exact readsAsPrinted_object blank
        fun field present => ih field present (printable field present)
  | unreadable => exact readsAsPrinted_of_step (fun _ => rfl) (by simp) fun _ _ _ => rfl

/-- The text of a value is a document, which holds this value. -/
theorem read_text (blank : spacing.IsBlank) {value : Value}
    (printable : value.EachLeaf IsPrintable) :
    read (value.text spacing) = some value.asRead := by
  have ends : EndsNumber [] := by simp [EndsNumber]
  have enough : 2 * (value.print spacing 0).length ≤
      2 * (String.ofList (value.print spacing 0)).length + 2 := by
    rw [String.length_ofList]
    omega
  have readAll := readsAsPrinted blank printable ends enough
  rw [List.append_nil] at readAll
  simp only [read, text, String.toList_ofList, readAll]
  rfl

end Value

end SampleChart.Json
