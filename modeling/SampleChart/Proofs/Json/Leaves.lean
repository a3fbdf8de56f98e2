import SampleChart.Json.Value

/-!
# The leaves of a value

What is neither an array nor an object is a leaf. Printing and reading change nothing but leaves:
`asRead` is what a value is read as after it was printed, and `EachLeaf` says something of every
leaf.
-/

namespace SampleChart.Json

namespace Value

/-- Induction over what lies in arrays and objects. -/
theorem nestedInduction {motive : Value → Prop} (null : motive null)
    (boolean : ∀ value, motive (boolean value)) (integer : ∀ value, motive (integer value))
    (real : ∀ value, motive (real value)) (string : ∀ text, motive (string text))
    (array : ∀ items, (∀ item ∈ items, motive item) → motive (array items))
    (object : ∀ fields, (∀ field ∈ fields, motive field.2) → motive (object fields))
    (unreadable : motive unreadable) (value : Value) : motive value :=
  @Value.rec motive (fun items => ∀ item ∈ items, motive item)
    (fun fields => ∀ field ∈ fields, motive field.2) (fun field => motive field.2)
    null boolean integer real string array object unreadable
    (by simp) (by simp_all) (by simp) (by simp_all) (by simp) value

mutual

/-- What a printed value is read as. A double that is not finite and what cannot be read are printed
as `null`. -/
def asRead : Value → Value
  | real number => if number.isFinite then real number else null
  | array items => array (itemsAsRead items)
  | object fields => object (fieldsAsRead fields)
  | unreadable => null
  | value => value

def itemsAsRead : List Value → List Value
  | [] => []
  | item :: rest => item.asRead :: itemsAsRead rest

def fieldsAsRead : List (String × Value) → List (String × Value)
  | [] => []
  | (name, value) :: rest => (name, value.asRead) :: fieldsAsRead rest

end

theorem itemsAsRead_eq_map (items : List Value) : itemsAsRead items = items.map asRead := by
  induction items with
  | nil => rfl
  | cons item rest ih => rw [itemsAsRead, ih, List.map_cons]

theorem fieldsAsRead_eq_map (fields : List (String × Value)) :
    fieldsAsRead fields = fields.map fun field => (field.1, field.2.asRead) := by
  induction fields with
  | nil => rfl
  | cons field rest ih => rw [fieldsAsRead, ih, List.map_cons]

/-- What was printed has no place that cannot be read. -/
theorem isReadable_asRead (value : Value) : value.asRead.isReadable = true := by
  induction value using nestedInduction with
  | real number => rw [asRead]; split <;> rfl
  | array items ih =>
      rw [asRead, isReadable]
      induction items with
      | nil => rfl
      | cons item rest ihRest =>
          simp only [List.forall_mem_cons] at ih
          rw [itemsAsRead, allReadable, ih.1, ihRest ih.2, Bool.and_self]
  | object fields ih =>
      rw [asRead, isReadable]
      induction fields with
      | nil => rfl
      | cons field rest ihRest =>
          simp only [List.forall_mem_cons] at ih
          rw [fieldsAsRead, allFieldsReadable, ih.1, ihRest ih.2, Bool.and_self]
  | _ => rfl

/-- A value lies as deep as it was printed. -/
theorem depth_asRead (value : Value) : value.asRead.depth = value.depth := by
  induction value using nestedInduction with
  | real number => rw [asRead]; split <;> rfl
  | array items ih =>
      rw [asRead, depth, depth]
      induction items with
      | nil => rfl
      | cons item rest ihRest =>
          simp only [List.forall_mem_cons] at ih
          have := ihRest ih.2
          rw [itemsAsRead, depthOfItems, depthOfItems, ih.1]
          omega
  | object fields ih =>
      rw [asRead, depth, depth]
      induction fields with
      | nil => rfl
      | cons field rest ihRest =>
          simp only [List.forall_mem_cons] at ih
          have := ihRest ih.2
          rw [fieldsAsRead, depthOfFields, depthOfFields, ih.1]
          omega
  | _ => rfl

mutual

/-- Whether something holds of everything in a value that is neither an array nor an object. -/
def EachLeaf (holds : Value → Prop) : Value → Prop
  | array items => EachLeafOfItems holds items
  | object fields => EachLeafOfFields holds fields
  | leaf => holds leaf

def EachLeafOfItems (holds : Value → Prop) : List Value → Prop
  | [] => True
  | item :: rest => item.EachLeaf holds ∧ EachLeafOfItems holds rest

def EachLeafOfFields (holds : Value → Prop) : List (String × Value) → Prop
  | [] => True
  | (_, value) :: rest => value.EachLeaf holds ∧ EachLeafOfFields holds rest

end

variable {holds : Value → Prop}

theorem eachLeaf_array_iff {items : List Value} :
    (array items).EachLeaf holds ↔ ∀ item ∈ items, item.EachLeaf holds := by
  rw [EachLeaf]
  induction items with
  | nil => simp [EachLeafOfItems]
  | cons item rest ih => simp [EachLeafOfItems, ih]

theorem eachLeaf_object_iff {fields : List (String × Value)} :
    (object fields).EachLeaf holds ↔ ∀ field ∈ fields, field.2.EachLeaf holds := by
  rw [EachLeaf]
  induction fields with
  | nil => simp [EachLeafOfFields]
  | cons field rest ih => simp [EachLeafOfFields, ih]

end Value

end SampleChart.Json
