import SampleChart.Proofs.Decimal.Numeral
import SampleChart.Proofs.Text.Fields

/-!
# Blanks that say nothing

How many blanks stand between two fields, and which ones, does not change the fields. `collapse`
puts a single space for every run of blanks. It keeps the fields of a text, and it leaves nothing to
trim at the ends of a text that was trimmed before.

A number may be asked of a trimmed text as a whole. `float?_trim` says that this too is decided by
the fields: a text of one field is that field when it is trimmed, and one of more fields has a blank
inside, which no number has.
-/

namespace SampleChart.Text

namespace Characters

/-- A space for every run of blanks. -/
def collapse : List Char → List Char
  | [] => []
  | character :: rest =>
      if isBlank character then
        if (collapse rest).head? = some ' ' then collapse rest else ' ' :: collapse rest
      else character :: collapse rest

theorem opensField_collapse (text : List Char) :
    opensField (collapse text) = opensField text := by
  cases text with
  | nil => rfl
  | cons character rest =>
      by_cases blank : isBlank character = true
      · rcases shape : collapse rest with _ | ⟨first, others⟩
        · simp [collapse, shape, blank, opensField, isBlank_space]
        · by_cases isSpace : first = ' ' <;>
            simp [collapse, shape, blank, opensField, isBlank_space, isSpace]
      · simp [collapse, blank, opensField]

/-- Collapsing blanks keeps the fields. -/
theorem fields_collapse (text : List Char) : fields (collapse text) = fields text := by
  induction text with
  | nil => rfl
  | cons character rest ih =>
      by_cases blank : isBlank character = true
      · have dropped : fields (character :: rest) = fields rest := by simp [fields, blank]
        have spaced : fields (' ' :: collapse rest) = fields (collapse rest) := by
          simp [fields, isBlank_space]
        simp only [collapse, blank, if_true]
        split <;> simp [dropped, spaced, ih]
      · have kept : collapse (character :: rest) = character :: collapse rest := by
          simp [collapse, blank]
        rw [kept]
        exact fields_cons_congr character (opensField_collapse rest) ih

/-- The only blanks that collapsing leaves are spaces. -/
theorem eq_space_of_mem_collapse {text : List Char} {character : Char}
    (present : character ∈ collapse text) (blank : isBlank character = true) :
    character = ' ' := by
  induction text with
  | nil => simp [collapse] at present
  | cons first rest ih =>
      rw [collapse] at present
      split at present
      · split at present
        · exact ih present
        · rcases List.mem_cons.mp present with isSpace | inRest
          · exact isSpace
          · exact ih inRest
      · rcases List.mem_cons.mp present with rfl | inRest
        · contradiction
        · exact ih inRest

theorem collapse_eq_nil_iff {text : List Char} : collapse text = [] ↔ text = [] := by
  cases text with
  | nil => simp [collapse]
  | cons character rest =>
      rw [collapse]
      split
      · split
        next opens =>
            simp only [reduceCtorEq, iff_false]
            intro nothing
            simp [nothing] at opens
        next => simp
      · simp

theorem consFirst_ne_nil (character : Char) (pieces : List (List Char)) :
    consFirst character pieces ≠ [] := by
  cases pieces <;> simp [consFirst]

/-- A text has no fields exactly if all of it is blank. -/
theorem fields_eq_nil_iff {text : List Char} :
    fields text = [] ↔ ∀ character ∈ text, isBlank character = true := by
  induction text with
  | nil => simp [fields]
  | cons character rest ih =>
      by_cases blank : isBlank character = true
      · simp [fields, blank, ih]
      · by_cases opens : opensField rest = true <;>
          simp [fields, blank, opens, consFirst_ne_nil]

theorem trimEnd_cons (character : Char) (rest : List Char) :
    trimEnd (character :: rest) =
      if trimEnd rest = [] then if isBlank character then [] else [character]
      else character :: trimEnd rest := by
  rw [trimEnd]
  split
  next nothing => simp [nothing]
  next written => rw [if_neg written]

/-- Nothing is left in front of the blanks at the end exactly if all of it is blank. -/
theorem trimEnd_eq_nil_iff {text : List Char} :
    trimEnd text = [] ↔ ∀ character ∈ text, isBlank character = true := by
  induction text with
  | nil => simp [trimEnd]
  | cons character rest ih =>
      rw [trimEnd_cons, List.forall_mem_cons, ← ih]
      by_cases nothing : trimEnd rest = [] <;> simp [nothing]

/-- A text has nothing to trim at its end if its rest has not and, where it has no rest, its one
character is not blank. -/
theorem trimEnd_cons_eq_self_iff {character : Char} {rest : List Char} :
    trimEnd (character :: rest) = character :: rest ↔
      trimEnd rest = rest ∧ (rest = [] → isBlank character = false) := by
  rw [trimEnd_cons]
  split
  next nothing =>
      rw [nothing]
      by_cases blank : isBlank character = true
      · simp only [blank, if_true, Bool.true_eq_false, imp_false, reduceCtorEq, false_iff]
        rintro ⟨same, rest_nonempty⟩
        exact rest_nonempty same.symm
      · simp [blank]
  next written =>
      have nonempty : rest ≠ [] := fun nothing => written (by rw [nothing]; rfl)
      simp [nonempty]

theorem trimEnd_trimEnd (text : List Char) : trimEnd (trimEnd text) = trimEnd text := by
  induction text with
  | nil => rfl
  | cons character rest ih =>
      rw [trimEnd_cons]
      split
      next => by_cases blank : isBlank character = true <;> simp [trimEnd, blank]
      next written => exact trimEnd_cons_eq_self_iff.mpr ⟨ih, fun nothing => absurd nothing written⟩

theorem trimEnd_trim (text : List Char) : trimEnd (trim text) = trim text :=
  trimEnd_trimEnd _

/-- What is left of a text when it is trimmed opens with a character that is not blank. -/
theorem opensField_trim {text : List Char} (written : trim text ≠ []) :
    opensField (trim text) = true := by
  rw [trim, opensField_trimEnd]
  rcases front : text.dropWhile isBlank with _ | ⟨first, others⟩
  · simp [trim, front, trimEnd] at written
  · have notBlank := List.head?_dropWhile_not isBlank text
    simpa [front, opensField] using notBlank

/-- A text that begins and ends with fields is not changed by trimming. -/
theorem trim_of_trimmed {text : List Char} (opens : text = [] ∨ opensField text = true)
    (ends : trimEnd text = text) : trim text = text := by
  cases text with
  | nil => rfl
  | cons character rest =>
      have notBlank : isBlank character = false := by simpa [opensField] using opens
      rw [trim, List.dropWhile_cons_of_neg (by simp [notBlank]), ends]

/-- Collapsing brings no blank to the end. -/
theorem trimEnd_collapse {text : List Char} (ends : trimEnd text = text) :
    trimEnd (collapse text) = collapse text := by
  induction text with
  | nil => rfl
  | cons character rest ih =>
      rcases trimEnd_cons_eq_self_iff.mp ends with ⟨restEnds, last⟩
      have kept := ih restEnds
      by_cases blank : isBlank character = true
      · have nonempty : collapse rest ≠ [] := by
          intro nothing
          simp [last (collapse_eq_nil_iff.mp nothing)] at blank
        simp only [collapse, blank, if_true]
        split
        next => exact kept
        next =>
            exact trimEnd_cons_eq_self_iff.mpr ⟨kept, fun nothing => absurd nothing nonempty⟩
      · simp only [collapse, blank, Bool.false_eq_true, if_false]
        exact trimEnd_cons_eq_self_iff.mpr ⟨kept, fun _ => by simpa using blank⟩

/-- A trimmed text with collapsed blanks has nothing left to trim. -/
theorem trim_collapse_trim (text : List Char) :
    trim (collapse (trim text)) = collapse (trim text) := by
  apply trim_of_trimmed
  · by_cases written : trim text = []
    · simp [written, collapse]
    · simp [opensField_collapse, opensField_trim written]
  · exact trimEnd_collapse (trimEnd_trim text)

/-- A trimmed text with a single field is this field. -/
theorem eq_of_fields_singleton {text field : List Char} (opens : opensField text = true)
    (ends : trimEnd text = text) (single : fields text = [field]) : text = field := by
  induction text generalizing field with
  | nil => simp [opensField] at opens
  | cons character rest ih =>
      have notBlank : isBlank character = false := by simpa [opensField] using opens
      have restEnds := (trimEnd_cons_eq_self_iff.mp ends).1
      rw [fields, notBlank] at single
      by_cases restOpens : opensField rest = true
      · rcases pieces : fields rest with _ | ⟨first, others⟩
        · rw [fields_eq_nil_iff, ← trimEnd_eq_nil_iff, restEnds] at pieces
          simp [pieces, opensField] at restOpens
        · have same : character :: first = field ∧ others = [] := by
            simpa [restOpens, pieces, consFirst] using single
          rw [ih restOpens restEnds (by rw [pieces, same.2]), same.1]
      · have same : [character] = field ∧ fields rest = [] := by simpa [restOpens] using single
        rw [fields_eq_nil_iff, ← trimEnd_eq_nil_iff, restEnds] at same
        rw [same.2, same.1]

/-- A text without blanks is one field, or empty. -/
theorem fields_of_not_hasBlank {text : List Char} (noBlank : ¬Decimal.HasBlank text) :
    fields text = [] ∨ fields text = [text] := by
  induction text with
  | nil => exact Or.inl rfl
  | cons character rest ih =>
      simp only [Decimal.HasBlank, List.mem_cons, not_exists, not_and] at noBlank
      have notBlank : isBlank character = false := by simpa using noBlank character
      rcases rest with _ | ⟨next, later⟩
      · simp [fields, notBlank, opensField]
      · have nextNotBlank : isBlank next = false := by simpa using noBlank next
        have restFields := ih (by simp_all [Decimal.HasBlank])
        have opens : opensField (next :: later) = true := by simp [opensField, nextNotBlank]
        rcases restFields with nothing | single
        · rw [fields_eq_nil_iff] at nothing
          simp [nothing next] at nextNotBlank
        · right
          rw [fields, notBlank, opens, single]
          rfl

theorem trim_eq_nil_iff {text : List Char} : trim text = [] ↔ fields text = [] := by
  rw [← trimEnd_trim, trimEnd_eq_nil_iff, ← fields_eq_nil_iff, fields_trim]

end Characters

/-- A space for every run of blanks. -/
def collapse (text : String) : String :=
  String.ofList (Characters.collapse text.toList)

@[simp]
theorem fields_collapse (text : String) : fields (collapse text) = fields text := by
  simp [fields, collapse, Characters.fields_collapse]

theorem trim_collapse_trim (text : String) :
    trim (collapse (trim text)) = collapse (trim text) := by
  simp [trim, collapse, Characters.trim_collapse_trim]

/-- Collapsed, a text is a single line. -/
theorem lineFeed_not_mem_collapse (text : String) : '\n' ∉ (collapse text).toList := by
  intro present
  rw [collapse, String.toList_ofList] at present
  have isSpace := Characters.eq_space_of_mem_collapse present (by decide)
  simp at isSpace

/-- Trimming leaves nothing exactly of a text without fields. -/
theorem isEmpty_trim_iff {text : String} : (trim text).isEmpty = true ↔ fields text = [] := by
  simp [trim, fields, Characters.trim_eq_nil_iff]

/-- A trimmed text denotes a number only if it is a single field. -/
theorem float?_trim (text : String) :
    Decimal.float? (trim text) =
      match fields text with
      | [field] => Decimal.float? field
      | _ => none := by
  have ends := Characters.trimEnd_trim text.toList
  have sameFields := Characters.fields_trim text.toList
  rw [fields]
  rcases pieces : Characters.fields text.toList with _ | ⟨first, _ | ⟨second, others⟩⟩
  · rw [trim, Characters.trim_eq_nil_iff.mpr pieces]
    rfl
  · have written : Characters.trim text.toList ≠ [] := by
      simp [Characters.trim_eq_nil_iff, pieces]
    have opens := Characters.opensField_trim written
    rw [trim, Characters.eq_of_fields_singleton opens ends (sameFields.trans pieces)]
    rfl
  · apply Decimal.float?_of_hasBlank
    rw [trim, String.toList_ofList]
    by_contra noBlank
    have oneField := Characters.fields_of_not_hasBlank noBlank
    simp [sameFields, pieces] at oneField

end SampleChart.Text
