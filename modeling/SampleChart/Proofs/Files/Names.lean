import SampleChart.Path
import SampleChart.Proofs.Text.Cuts

/-!
# The names in paths

A piece of a path names something unless it is nothing, a dot or two dots. A name with an extension
that has a letter is such a piece, whatever stands before the extension, and the name of a path has
no slash in it.
-/

namespace SampleChart.Path

/-- Whether a piece of a path names something in the directory that it is followed from. -/
def IsName (piece : List Char) : Prop :=
  piece ≠ [] ∧ piece ≠ ['.'] ∧ piece ≠ ['.', '.']

/-- An extension that makes a name of any text. -/
def IsExtension (extension : String) : Prop :=
  extension ≠ "" ∧ '/' ∉ extension.toList ∧ '.' ∉ extension.toList

theorem isExtension_json : IsExtension "json" :=
  ⟨by decide, by decide, by decide⟩

theorem isExtension_svg : IsExtension "svg" :=
  ⟨by decide, by decide, by decide⟩

/-- The name of a file is a single component. -/
theorem slash_not_mem_fileName {path : String} {name : List Char}
    (isName : fileName? path = some name) : '/' ∉ name := by
  rw [fileName?] at isName
  split at isName
  next last isLast =>
      split_ifs at isName
      rcases Option.some.inj isName with rfl
      have listed := (List.mem_filter.mp (List.mem_of_getLast? isLast)).1
      exact Text.not_mem_of_mem_cutBetween _ _ listed
  next => cases isName

/-- A stem brings no character in that the name does not have. -/
theorem stemOf_subset (name : List Char) : stemOf name ⊆ name := by
  rw [stemOf]
  split
  next before after cut =>
      split_ifs
      · exact List.Subset.refl _
      · rw [(Text.eq_append_of_cutAtLast cut).1]
        exact List.subset_append_left _ _
  next => exact List.Subset.refl _

/-- A letter of the extension is no dot, so that what ends in it is no row of dots. -/
theorem isName_append {extension : String} (isExtension : IsExtension extension)
    (front : List Char) : IsName (front ++ '.' :: extension.toList) := by
  rcases isExtension with ⟨present, _, undotted⟩
  rcases letters : extension.toList with _ | ⟨letter, others⟩
  · exact absurd (String.toList_eq_nil_iff.mp letters) present
  · have isLetter : letter ≠ '.' := by
      rintro rfl
      rw [letters] at undotted
      exact undotted List.mem_cons_self
    have member : letter ∈ front ++ '.' :: letter :: others := by simp
    refine ⟨by simp, ?_, ?_⟩
    · intro isDot
      simp [isDot, isLetter] at member
    · intro areDots
      simp [areDots, isLetter] at member

end SampleChart.Path
