import SampleChart.Text.Blank

/-!
# Fields of a trimmed text

A line is trimmed before it is read, and its fields are taken from what is left. No field is lost
on the way: `fields_trim` says that the trimmed line has the fields of the whole one. At the end of
a text this rests on `opensField_trimEnd`, since a run of characters is cut where the next character
is blank or missing, and trimming may turn the one into the other.
-/

namespace SampleChart.Text

namespace Characters

/-- Blanks in front belong to no field. -/
theorem fields_dropWhile (text : List Char) : fields (text.dropWhile isBlank) = fields text := by
  induction text with
  | nil => rfl
  | cons character rest ih =>
      by_cases blank : isBlank character = true
      · rw [List.dropWhile_cons_of_pos blank, ih]
        simp [fields, blank]
      · rw [List.dropWhile_cons_of_neg blank]

theorem opensField_trimEnd (text : List Char) : opensField (trimEnd text) = opensField text := by
  cases text with
  | nil => rfl
  | cons character rest =>
      cases trimmed : trimEnd rest with
      | nil =>
          by_cases blank : isBlank character = true <;> simp [trimEnd, trimmed, opensField, blank]
      | cons first others => simp [trimEnd, trimmed, opensField]

theorem fields_cons_congr {left right : List Char} (character : Char)
    (opens : opensField left = opensField right) (same : fields left = fields right) :
    fields (character :: left) = fields (character :: right) := by
  rw [fields, fields, opens, same]

/-- Blanks at the end belong to no field. -/
theorem fields_trimEnd (text : List Char) : fields (trimEnd text) = fields text := by
  induction text with
  | nil => rfl
  | cons character rest ih =>
      have same : fields (character :: trimEnd rest) = fields (character :: rest) :=
        fields_cons_congr character (opensField_trimEnd rest) ih
      cases trimmed : trimEnd rest with
      | nil =>
          rw [trimmed] at same
          by_cases blank : isBlank character = true
          · simpa [trimEnd, trimmed, fields, blank] using same
          · simpa [trimEnd, trimmed, blank] using same
      | cons first others =>
          rw [trimmed] at same
          simpa [trimEnd, trimmed] using same

/-- Trimming keeps the fields. -/
theorem fields_trim (text : List Char) : fields (trim text) = fields text := by
  rw [trim, fields_trimEnd, fields_dropWhile]

theorem not_isBlank_of_mem_consFirst {first : Char} {pieces : List (List Char)}
    (notBlank : isBlank first = false)
    (none : ∀ piece ∈ pieces, ∀ character ∈ piece, isBlank character = false) :
    ∀ piece ∈ consFirst first pieces, ∀ character ∈ piece, isBlank character = false := by
  cases pieces with
  | nil => simpa [consFirst] using notBlank
  | cons piece others =>
      simp only [List.forall_mem_cons] at none
      simpa [consFirst, notBlank] using none

/-- There is no blank in a field. -/
theorem not_isBlank_of_mem_fields (text : List Char) :
    ∀ field ∈ fields text, ∀ character ∈ field, isBlank character = false := by
  induction text with
  | nil => simp [fields]
  | cons first rest ih =>
      rw [fields]
      split
      · exact ih
      next notBlank =>
          rw [Bool.not_eq_true] at notBlank
          split
          · exact not_isBlank_of_mem_consFirst notBlank ih
          · simpa [notBlank] using ih

end Characters

/-- A field has no blank. -/
theorem not_isBlank_of_mem_fields {text field : String} (listed : field ∈ fields text) :
    ∀ character ∈ field.toList, isBlank character = false := by
  rcases List.mem_map.mp listed with ⟨characters, inText, rfl⟩
  rw [String.toList_ofList]
  exact Characters.not_isBlank_of_mem_fields text.toList characters inText

/-- Trimming a line leaves its fields as they are. -/
@[simp]
theorem fields_trim (text : String) : fields (trim text) = fields text := by
  simp [fields, trim, Characters.fields_trim]

end SampleChart.Text
