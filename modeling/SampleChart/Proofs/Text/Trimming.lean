import SampleChart.Proofs.Text.Spacing

/-!
# What trimming leaves

A trimmed text has no blank at its ends, and `trim_eq_self_iff` says that only such a text is left
as it is. A text that has another character besides blanks keeps something.
-/

namespace SampleChart.Text

namespace Characters

theorem mem_of_mem_trimEnd {text : List Char} {character : Char}
    (kept : character ∈ trimEnd text) : character ∈ text := by
  induction text with
  | nil => exact kept
  | cons first rest ih =>
      rw [trimEnd_cons] at kept
      split_ifs at kept
      · exact absurd kept List.not_mem_nil
      · exact List.mem_cons.mpr (.inl (List.mem_singleton.mp kept))
      · exact List.mem_cons.mpr ((List.mem_cons.mp kept).imp_right ih)

theorem mem_of_mem_trim {text : List Char} {character : Char} (kept : character ∈ trim text) :
    character ∈ text := by
  apply (List.dropWhile_suffix isBlank).subset
  exact mem_of_mem_trimEnd kept

/-- A text loses nothing at its end exactly if it does not end with a blank. -/
theorem trimEnd_eq_self_iff {text : List Char} :
    trimEnd text = text ↔ ∀ last ∈ text.getLast?, isBlank last = false := by
  induction text with
  | nil => simp [trimEnd]
  | cons character rest ih =>
      rw [trimEnd_cons_eq_self_iff, ih]
      cases rest with
      | nil => simp
      | cons next later => simp

/-- Trimming leaves a text as it is exactly if this neither begins nor ends with a blank. -/
theorem trim_eq_self_iff {text : List Char} :
    trim text = text ↔
      (∀ first ∈ text.head?, isBlank first = false) ∧
        ∀ last ∈ text.getLast?, isBlank last = false := by
  rw [← trimEnd_eq_self_iff]
  constructor
  · intro same
    constructor
    · intro first opens
      have written : trim text ≠ [] := by
        rw [same]
        intro nothing
        simp [nothing] at opens
      have notBlank := opensField_trim written
      cases text with
      | nil => simp at opens
      | cons character rest => simp_all [opensField]
    · rw [← same, trimEnd_trim]
  · rintro ⟨opens, ends⟩
    apply trim_of_trimmed _ ends
    cases text with
    | nil => exact .inl rfl
    | cons character rest =>
        right
        simpa [opensField] using opens character rfl

/-- Trimming a second time takes nothing more away. -/
theorem trim_trim (text : List Char) : trim (trim text) = trim text := by
  apply trim_of_trimmed _ (trimEnd_trim text)
  by_cases written : trim text = []
  · exact .inl written
  · exact .inr (opensField_trim written)

end Characters

/-- Holds of a text that has no blank at either end. -/
def Trimmed (text : String) : Prop :=
  (∀ first ∈ text.toList.head?, isBlank first = false) ∧
    ∀ last ∈ text.toList.getLast?, isBlank last = false

/-- Holds of a text that is not blank. -/
def Written (text : String) : Prop :=
  ∃ character ∈ text.toList, isBlank character = false

instance (text : String) : Decidable (Written text) :=
  List.decidableBEx (isBlank · = false) text.toList

theorem trim_eq_self_iff {text : String} : trim text = text ↔ Trimmed text := by
  rw [Trimmed, ← Characters.trim_eq_self_iff, trim, ← String.toList_inj, String.toList_ofList]

theorem trimmed_trim (text : String) : Trimmed (trim text) := by
  apply trim_eq_self_iff.mp
  simp [trim, Characters.trim_trim]

/-- Nothing is left exactly of a text of blanks. -/
theorem trim_eq_empty_iff {text : String} : trim text = "" ↔ ¬Written text := by
  rw [trim, ← String.toList_inj, String.toList_ofList, String.toList_empty,
    Characters.trim_eq_nil_iff, Characters.fields_eq_nil_iff]
  simp [Written]

/-- Trimming brings no character in. -/
theorem not_mem_trim {text : String} {character : Char} (absent : character ∉ text.toList) :
    character ∉ (trim text).toList := by
  rw [trim, String.toList_ofList]
  exact fun kept => absent (Characters.mem_of_mem_trim kept)

end SampleChart.Text
