import Mathlib.Data.List.Infix
import SampleChart.Proofs.Text.Fields
import SampleChart.Table.Layout
import SampleChart.Text.Lines

/-!
# Lines of a results file

What a results file says, told from its lines alone and without a reader that walks over them. The
meaning of a line hangs on the lines before it only through the last marker among them: a sample
belongs to the group that this marker names. `place?` says where a sample goes, and `numbers` lists
the texts of the samples of one group in the order of their lines.

Only the lines that are not blank count. `contents` lists these, each as it stands in the text.
-/

namespace SampleChart.Line

/-- Whether nothing is left of a line when it is trimmed. -/
def isBlank (line : String) : Bool :=
  (Text.trim line).isEmpty

/-- The fields of a marker behind its `#`, for a line whose first field is `#`. -/
def marker? (line : String) : Option (List String) :=
  match Text.fields line with
  | [] => none
  | first :: rest => if first = Layout.marker then some rest else none

/-- The last marker among some lines. -/
def lastMarker? (lines : List String) : Option (List String) :=
  (lines.filterMap marker?).getLast?

/-- Each line with the lines before it. -/
def withEarlier (lines : List String) : List (List String × String) :=
  lines.inits.zip lines

/-- The lines of a text that are not blank. -/
def contents (text : String) : List String :=
  (Text.lines text).filter fun line => !isBlank line

/-- Where a line that is no marker puts its sample: the series, the benchmark and the text of the
number. In the keyed layout the line itself names the series. -/
def place? (layout : Layout) (earlier : List String) (line : String) :
    Option (String × String × String) :=
  match marker? line, layout, lastMarker? earlier with
  | some _, _, _ => none
  | none, .keyed, some [benchmark] =>
      match Text.fields line with
      | [series, number] => some (series, benchmark, number)
      | _ => none
  | none, .keyed, _ => none
  | none, _, some [benchmark, series] => some (series, benchmark, Text.trim line)
  | none, _, _ => none

/-- The text of the number that a line adds to a group. -/
def number? (layout : Layout) (series benchmark : String) (earlier : List String) (line : String) :
    Option String :=
  match place? layout earlier line with
  | some (series', benchmark', number) =>
      if series' = series ∧ benchmark' = benchmark then some number else none
  | none => none

/-- The texts of the numbers of a group, in the order of their lines. -/
def numbers (layout : Layout) (lines : List String) (series benchmark : String) : List String :=
  (withEarlier lines).filterMap fun (earlier, line) => number? layout series benchmark earlier line

/-- A marker is told by its first field, and names what follows this. -/
theorem marker?_eq_some_iff {line : String} {rest : List String} :
    marker? line = some rest ↔ Text.fields line = Layout.marker :: rest := by
  rw [marker?]
  split
  next none_left => simp [none_left]
  next first others fields => by_cases isMarker : first = Layout.marker <;> simp [fields, isMarker]

theorem marker?_eq_none_iff {line : String} :
    marker? line = none ↔ (Text.fields line).head? ≠ some Layout.marker := by
  rw [marker?]
  split
  next none_left => simp [none_left]
  next first others fields => by_cases isMarker : first = Layout.marker <;> simp [fields, isMarker]

/-- A marker takes the place of those before it, and any other line leaves the last one as it is. -/
theorem lastMarker?_append_singleton (lines : List String) (line : String) :
    lastMarker? (lines ++ [line]) = (marker? line).or (lastMarker? lines) := by
  cases isMarker : marker? line <;> simp [lastMarker?, isMarker]

/-- There is a last marker exactly if there is any. -/
theorem isSome_lastMarker?_iff {lines : List String} :
    (lastMarker? lines).isSome ↔ ∃ line ∈ lines, (marker? line).isSome := by
  rw [lastMarker?, List.getLast?_isSome, Ne, List.filterMap_eq_nil_iff]
  simp [Option.isSome_iff_ne_none]

@[simp]
theorem withEarlier_nil : withEarlier [] = [] := rfl

/-- The first line of a text is earlier than all the others. -/
theorem withEarlier_cons (first : String) (rest : List String) :
    withEarlier (first :: rest) =
      ([], first) :: (withEarlier rest).map fun (earlier, line) => (first :: earlier, line) := by
  simp only [withEarlier, List.inits_cons, List.zip_cons_cons, List.zip_map_left]
  rfl

/-- A line at the end has all the others before it. -/
theorem withEarlier_append_singleton (lines : List String) (line : String) :
    withEarlier (lines ++ [line]) = withEarlier lines ++ [(lines, line)] := by
  induction lines with
  | nil => rfl
  | cons first rest ih =>
      rw [List.cons_append, withEarlier_cons, ih, List.map_append, withEarlier_cons]
      rfl

theorem mem_withEarlier_append_singleton {lines earlier : List String} {line other : String} :
    (earlier, other) ∈ withEarlier (lines ++ [line]) ↔
      (earlier, other) ∈ withEarlier lines ∨ earlier = lines ∧ other = line := by
  simp [withEarlier_append_singleton]

/-- The lines with what comes before them are the ways to cut a text at a line. -/
theorem mem_withEarlier_iff {lines earlier : List String} {line : String} :
    (earlier, line) ∈ withEarlier lines ↔ ∃ later, lines = earlier ++ line :: later := by
  induction lines using List.reverseRecOn with
  | nil => simp
  | append_singleton before last ih =>
      rw [mem_withEarlier_append_singleton, ih]
      constructor
      · rintro (⟨later, rfl⟩ | ⟨rfl, rfl⟩)
        · exact ⟨later ++ [last], by simp⟩
        · exact ⟨[], rfl⟩
      · rintro ⟨later, cut⟩
        rcases List.eq_nil_or_concat later with rfl | ⟨others, final, rfl⟩
        · rcases List.append_inj' cut rfl with ⟨rfl, equal⟩
          simp_all
        · rw [List.concat_eq_append, ← List.cons_append, ← List.append_assoc] at cut
          exact Or.inl ⟨others, (List.append_inj' cut rfl).1⟩

/-- The numbers of a group grow at the end, by the number of the last line if it adds one. -/
theorem numbers_append_singleton (layout : Layout) (lines : List String)
    (line series benchmark : String) :
    numbers layout (lines ++ [line]) series benchmark =
      numbers layout lines series benchmark ++
        (number? layout series benchmark lines line).toList := by
  rw [numbers, withEarlier_append_singleton, List.filterMap_append, numbers]
  cases number : number? layout series benchmark lines line <;> simp [number]

end SampleChart.Line
