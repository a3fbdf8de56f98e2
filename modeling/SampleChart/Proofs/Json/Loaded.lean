import SampleChart.Proofs.Json.Doubles
import SampleChart.Proofs.Json.Printed

/-!
# What is read can be printed

Every number of a value that was read is an integer of 64 bits or a finite double. So the value has
a JSON form, and no part of it is printed as `null` that is none.
-/

namespace SampleChart.Json

/-- Whether a number is one that a document can hold. -/
def Value.IsLoaded : Value → Prop
  | integer number => -(2 ^ 63) ≤ number ∧ number < 2 ^ 64
  | real number => ExponentAtMost 971 number.toModel.unpack
  | _ => True

open Value (EachLeaf IsLoaded eachLeaf_array_iff eachLeaf_object_iff)

theorem isLoaded_numberValue (parts : NumberParts) : parts.value.EachLeaf IsLoaded := by
  unfold NumberParts.value
  split
  next number isInteger =>
    unfold NumberParts.integer? NumberParts.significandBound at isInteger
    dsimp only at isInteger
    split at isInteger
    next => cases isInteger
    split at isInteger
    next =>
      split at isInteger
      next fits =>
        cases isInteger
        exact ⟨by omega, by omega⟩
      next => cases isInteger
    next =>
      split at isInteger
      next fits =>
        cases isInteger
        exact ⟨by omega, by omega⟩
      next => cases isInteger
  next =>
    split
    next read => exact NumberParts.exponentAtMost_of_float? read
    next => trivial

theorem isLoaded_of_readNumber {text left : List Char} {value : Value}
    (read : readNumber text = some (value, left)) : value.EachLeaf IsLoaded := by
  have ofUnsigned {negative : Bool} {text : List Char}
      (read : readUnsigned negative text = some (value, left)) : value.EachLeaf IsLoaded := by
    rw [readUnsigned_eq_some_iff] at read
    rcases read with ⟨whole, _, fraction, _, exponent, -, -, -, rfl⟩
    exact isLoaded_numberValue _
  by_cases minus : text.head? = some '-'
  · rcases text with _ | ⟨first, others⟩
    · cases minus
    · cases minus
      exact ofUnsigned read
  · rw [readNumber_of_no_minus minus] at read
    exact ofUnsigned read

/-- Each result comes from one of the sources if there are results for all of them. -/
theorem exists_mem_of_mapM {α β : Type} {result? : α → Option β} {sources : List α}
    {results : List β} (all : sources.mapM result? = some results) :
    ∀ result ∈ results, ∃ source ∈ sources, result? source = some result := by
  induction sources generalizing results with
  | nil =>
      cases all
      simp
  | cons first rest ih =>
      simp only [List.mapM_cons, Option.pure_def, Option.bind_eq_bind, Option.bind_eq_some_iff,
        Option.some.injEq] at all
      rcases all with ⟨ofFirst, isFirst, others, ofRest, rfl⟩
      intro result present
      rcases List.mem_cons.mp present with rfl | present
      · exact ⟨first, by simp, isFirst⟩
      · rcases ih ofRest result present with ⟨source, fromRest, isResult⟩
        exact ⟨source, List.mem_cons_of_mem first fromRest, isResult⟩

theorem isLoaded_objectOf {fields : List (Option String × Value)}
    (each : ∀ field ∈ fields, field.2.EachLeaf IsLoaded) : (objectOf fields).EachLeaf IsLoaded := by
  unfold objectOf
  split
  next named eq =>
    rw [eachLeaf_object_iff]
    intro field present
    rcases exists_mem_of_mapM eq field present with ⟨⟨_, value⟩, fromFields, isField⟩
    rcases Option.map_eq_some_iff.mp isField with ⟨_, -, rfl⟩
    exact each _ fromFields
  next => trivial

section Steps

variable {steps : Nat}
  (ofValue : ∀ {text rest value},
    readValue steps text = some (value, rest) → value.EachLeaf IsLoaded)
  (ofItems : ∀ {text rest items},
    readItems steps text = some (items, rest) → ∀ item ∈ items, item.EachLeaf IsLoaded)
  (ofFields : ∀ {text rest fields},
    readFields steps text = some (fields, rest) → ∀ field ∈ fields, field.2.EachLeaf IsLoaded)

include ofItems ofFields in
theorem isLoaded_of_readValue_succ {text rest : List Char} {value : Value}
    (read : readValue (steps + 1) text = some (value, rest)) : value.EachLeaf IsLoaded := by
  rw [readValue] at read
  split at read
  next => cases read; trivial
  next => cases read; trivial
  next => cases read; trivial
  next =>
    simp only [Option.map_eq_some_iff] at read
    rcases read with ⟨⟨text, _⟩, -, eq⟩
    cases eq
    cases text <;> trivial
  next =>
    split at read
    next =>
      cases read
      simp [eachLeaf_array_iff]
    next =>
      simp only [Option.map_eq_some_iff] at read
      rcases read with ⟨⟨items, _⟩, read, eq⟩
      cases eq
      rw [eachLeaf_array_iff]
      exact ofItems read
  next =>
    split at read
    next =>
      cases read
      simp [eachLeaf_object_iff]
    next =>
      simp only [Option.map_eq_some_iff] at read
      rcases read with ⟨⟨fields, _⟩, read, eq⟩
      cases eq
      exact isLoaded_objectOf (ofFields read)
  next => exact isLoaded_of_readNumber read

include ofValue ofItems in
theorem isLoaded_of_readItems_succ {text rest : List Char} {items : List Value}
    (read : readItems (steps + 1) text = some (items, rest)) :
    ∀ item ∈ items, item.EachLeaf IsLoaded := by
  rw [readItems] at read
  simp only [Option.bind_eq_bind, Option.bind_eq_some_iff] at read
  rcases read with ⟨⟨item, behind⟩, first, read⟩
  dsimp only at read
  split at read
  next =>
    rw [Option.bind_eq_some_iff] at read
    rcases read with ⟨⟨others, _⟩, readOthers, eq⟩
    cases eq
    exact List.forall_mem_cons.mpr ⟨ofValue first, ofItems readOthers⟩
  next =>
    cases read
    simpa using ofValue first
  next => cases read

include ofValue ofFields in
theorem isLoaded_of_readFields_succ {text rest : List Char} {fields : List (Option String × Value)}
    (read : readFields (steps + 1) text = some (fields, rest)) :
    ∀ field ∈ fields, field.2.EachLeaf IsLoaded := by
  rw [readFields] at read
  split at read
  next =>
    simp only [Option.bind_eq_bind, Option.bind_eq_some_iff] at read
    rcases read with ⟨⟨name, behindName⟩, -, read⟩
    dsimp only at read
    split at read
    next =>
      rw [Option.bind_eq_some_iff] at read
      rcases read with ⟨⟨value, behind⟩, first, read⟩
      dsimp only at read
      split at read
      next =>
        rw [Option.bind_eq_some_iff] at read
        rcases read with ⟨⟨others, _⟩, readOthers, eq⟩
        cases eq
        exact List.forall_mem_cons.mpr ⟨ofValue first, ofFields readOthers⟩
      next =>
        cases read
        simpa using ofValue first
      next => cases read
    next => cases read
  next => cases read

end Steps

/-- By induction on the steps, since every reader calls the others with one step less. -/
theorem isLoaded_of_steps (steps : Nat) :
    (∀ {text rest value}, readValue steps text = some (value, rest) → value.EachLeaf IsLoaded) ∧
    (∀ {text rest items}, readItems steps text = some (items, rest) →
      ∀ item ∈ items, item.EachLeaf IsLoaded) ∧
    ∀ {text rest fields}, readFields steps text = some (fields, rest) →
      ∀ field ∈ fields, field.2.EachLeaf IsLoaded := by
  induction steps with
  | zero => simp [readValue, readItems, readFields]
  | succ steps ih =>
      rcases ih with ⟨ofValue, ofItems, ofFields⟩
      exact ⟨isLoaded_of_readValue_succ ofItems ofFields,
        isLoaded_of_readItems_succ ofValue ofItems, isLoaded_of_readFields_succ ofValue ofFields⟩

/-- Every number of a document that was read is an integer of 64 bits or a finite double. -/
theorem isLoaded_of_read {text : String} {value : Value} (isRead : read text = some value) :
    value.EachLeaf IsLoaded := by
  unfold read at isRead
  split at isRead
  next readAll =>
    split at isRead
    next =>
      cases isRead
      exact (isLoaded_of_steps _).1 readAll
    next => cases isRead
  next => cases isRead

end SampleChart.Json
