import SampleChart.Proofs.Reading.Grammar

/-!
# Detection of the layout

A reading with an open choice of layout does nothing before the first line that is not blank, and
there it becomes the reading that was started in the detected layout. So both passes agree from this
line on, also in the error that they may end with.

That the choice is right is shown from the other side. A layout that accepts a text puts a condition
on its first line already: with no line before it, this line is no sample. What is left is a marker
with one field, a marker with two, or no marker at all, and this is what `Layout.detect` looks at.
-/

namespace SampleChart

namespace Line

/-- A marker with one field tells a keyed text and one with two fields a text without a legend. All
else is a legend. -/
theorem detect_fields (line : String) :
    Layout.detect (Text.fields line) =
      match marker? line with
      | some [_] => .keyed
      | some [_, _] => .headerless
      | _ => .headered := by
  rw [marker?]
  rcases Text.fields line with _ | ⟨first, rest⟩
  · rfl
  · by_cases isMarker : first = Layout.marker
    · simp only [Layout.detect, isMarker, if_true]
      rcases rest with _ | ⟨second, _ | ⟨third, _ | ⟨fourth, others⟩⟩⟩ <;> simp
    · simp [Layout.detect, isMarker]

theorem not_hasMarker_nil : ¬HasMarker [] := by
  simp [HasMarker]

/-- A line that can be the first without a legend is told to be one. -/
theorem detect_of_fitsNamed {known : String → Prop} {line : String}
    (fits : FitsNamed known [] line) : Layout.detect (Text.fields line) = .headerless := by
  rcases fits with ⟨benchmark, series, isMarker, _⟩ | ⟨_, _, placed⟩
  · rw [detect_fields, isMarker]
  · exact absurd placed not_hasMarker_nil

/-- A line that can be the first of a keyed text is told to be one. -/
theorem detect_of_fitsKeyed {line : String} (fits : FitsKeyed [] line) :
    Layout.detect (Text.fields line) = .keyed := by
  rcases fits with ⟨benchmark, isMarker⟩ | ⟨_, _, placed⟩
  · rw [detect_fields, isMarker]
  · exact absurd placed not_hasMarker_nil

theorem detect_of_isLegend {line : String} (isLegend : IsLegend line) :
    Layout.detect (Text.fields line) = .headered := by
  rw [detect_fields, isLegend.1]

end Line

namespace Reading

theorem settle_start_auto (fields : List String) :
    (start .auto).settle fields = start (Layout.detect fields) := rfl

/-- The first line that is not blank settles the layout, and is read in it. -/
theorem readContent_start_auto (content : String) :
    (start .auto).readContent content =
      (start (Layout.detect (Text.fields content))).readContent content := by
  have settled : (start (Layout.detect (Text.fields content))).layout ≠ .auto := by
    rw [layout_start]
    exact detect_ne_auto _
  rw [readContent, readContent, settle_start_auto, settle_of_ne_auto settled]

theorem readLine_start_auto {line : String} (written : Line.isBlank line = false) (number : Nat) :
    (start .auto).readLine number (some line) =
      (start (Layout.detect (Text.fields line))).readLine number (some line) := by
  rw [readLine_of_written _ _ written, readLine_of_written _ _ written, readContent_start_auto,
    Text.fields_trim]

theorem readLines_of_blank (reading : Reading) (number : Nat) {lines : List String}
    (blank : lines.filter (fun line => !Line.isBlank line) = []) :
    reading.readLines number (lines.map some) = .ok reading := by
  apply readLines_eq_ok_iff.mpr
  rw [blank]
  rfl

/-- The first line that is not blank settles the layout for the whole text. -/
theorem readLines_start_auto {lines rest : List String} {first : String}
    (contents : lines.filter (fun line => !Line.isBlank line) = first :: rest) (number : Nat) :
    (start .auto).readLines number (lines.map some) =
      (start (Layout.detect (Text.fields first))).readLines number (lines.map some) := by
  induction lines generalizing number with
  | nil => cases contents
  | cons line later ih =>
      rw [List.map_cons, readLines, readLines]
      cases blank : Line.isBlank line with
      | true =>
          rw [readLine_of_blank _ number blank, readLine_of_blank _ number blank]
          rw [List.filter_cons_of_neg (by simp [blank])] at contents
          exact ih contents (number + 1)
      | false =>
          rw [List.filter_cons_of_pos (by simp [blank])] at contents
          rcases List.cons.inj contents with ⟨rfl, _⟩
          rw [readLine_start_auto blank number]

end Reading

namespace Table

variable {layout : Layout} {text first : String} {rest : List String}

/-- A text is read in the layout that its first line tells. -/
theorem parse_auto_eq_parse_detect (contents : Line.contents text = first :: rest) :
    parse .auto text = parse (Layout.detect (Text.fields first)) text := by
  rw [parse, parse, ofLines, ofLines, Reading.readLines_start_auto contents]

theorem parse_of_blank (layout : Layout) (blank : Line.contents text = []) :
    parse layout text = .ok (Reading.start layout).table := by
  rw [parse, ofLines, Reading.readLines_of_blank (Reading.start layout) 1 blank]
  rfl

/-- Only the layout that its first line tells can accept a text. -/
theorem detect_eq_of_accepted (contents : Line.contents text = first :: rest)
    (explicit : layout ≠ .auto) (accepted : ∃ table, parse layout text = .ok table) :
    layout = Layout.detect (Text.fields first) := by
  have opens : Line.contents text = [] ++ first :: rest := contents
  cases layout with
  | auto => exact absurd rfl explicit
  | headerless =>
      have fits := (parse_headerless_isOk_iff text).mp accepted [] first rest opens
      rw [Line.detect_of_fitsNamed fits]
  | headered =>
      rcases (parse_headered_isOk_iff text).mp accepted with blank | ⟨legend, _, cut, isLegend, _⟩
      · rw [contents] at blank
        cases blank
      · rw [contents] at cut
        rcases List.cons.inj cut with ⟨rfl, _⟩
        rw [Line.detect_of_isLegend isLegend]
  | keyed =>
      have fits := (parse_keyed_isOk_iff text).mp accepted [] first rest opens
      rw [Line.detect_of_fitsKeyed fits]

/-- An open choice of layout is settled right and in only one way. With the first line that is not
blank the text is parsed as in the detected layout, be it to a table or to an error, and no other
layout accepts it: the three languages are disjoint, and an open choice accepts their union. A text
without such a line is accepted in every layout and holds nothing but the two roles of the
headerless one. -/
theorem parse_auto (text : String) :
    (∀ first rest, Line.contents text = first :: rest →
      parse .auto text = parse (Layout.detect (Text.fields first)) text ∧
      (∀ layout, layout ≠ .auto → (∃ table, parse layout text = .ok table) →
        layout = Layout.detect (Text.fields first)) ∧
      (∀ left right, left ≠ .auto → right ≠ .auto → (∃ table, parse left text = .ok table) →
        (∃ table, parse right text = .ok table) → left = right) ∧
      ∀ table, parse .auto text = .ok table ↔
        ∃ layout, layout ≠ .auto ∧ parse layout text = .ok table) ∧
    (Line.contents text = [] →
      parse .headerless text =
          .ok ⟨[], ["offset", "native"], [⟨"offset", []⟩, ⟨"native", []⟩]⟩ ∧
        ∀ layout, layout ≠ .headerless → parse layout text = .ok .empty) := by
  constructor
  · intro first rest contents
    have settled := parse_auto_eq_parse_detect contents
    refine ⟨settled, ?_, ?_, ?_⟩
    · intro layout explicit accepted
      exact detect_eq_of_accepted contents explicit accepted
    · intro left right leftExplicit rightExplicit leftAccepts rightAccepts
      rw [detect_eq_of_accepted contents leftExplicit leftAccepts,
        detect_eq_of_accepted contents rightExplicit rightAccepts]
    · intro table
      constructor
      · intro parsed
        rw [settled] at parsed
        exact ⟨_, Reading.detect_ne_auto _, parsed⟩
      · rintro ⟨layout, explicit, parsed⟩
        rw [settled, ← detect_eq_of_accepted contents explicit ⟨table, parsed⟩]
        exact parsed
  · intro blank
    constructor
    · exact parse_of_blank .headerless blank
    · intro layout other
      rw [parse_of_blank layout blank]
      cases layout with
      | headerless => exact absurd rfl other
      | auto => rfl
      | headered => rfl
      | keyed => rfl

/-- A marker behind a blank line, one that fits no layout, and a text of blanks. -/
theorem parse_auto_of_late_marker :
    (parse .auto "\r\n # b native\n1\n" = parse .headerless "\r\n # b native\n1\n" ∧
      ∀ layout, layout ≠ .auto →
        (∃ table, parse layout "\r\n # b native\n1\n" = .ok table) → layout = .headerless) ∧
      parse .auto "# a b c\n" = parse .headered "# a b c\n" ∧
      parse .auto " \n\t\n" = .ok .empty := by
  have late : Line.contents "\r\n # b native\n1\n" = [" # b native", "1"] := by decide +kernel
  have unfit : Line.contents "# a b c\n" = ["# a b c"] := by decide +kernel
  have blank : Line.contents " \n\t\n" = [] := by decide +kernel
  have toRoles : Layout.detect (Text.fields " # b native") = .headerless := by decide +kernel
  have toLegend : Layout.detect (Text.fields "# a b c") = .headered := by decide +kernel
  have ofLate := (parse_auto "\r\n # b native\n1\n").1 _ _ late
  have ofUnfit := (parse_auto "# a b c\n").1 _ _ unfit
  rw [toRoles] at ofLate
  rw [toLegend] at ofUnfit
  exact ⟨⟨ofLate.1, ofLate.2.1⟩, ofUnfit.1, ((parse_auto " \n\t\n").2 blank).2 .auto (by simp)⟩

end Table

end SampleChart
