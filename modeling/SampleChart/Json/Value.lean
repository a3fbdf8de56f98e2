/-!
# JSON values

The values that a JSON document can hold. A number is an integer if it is written without a fraction
and an exponent and fits 64 bits, and a double otherwise. The fields of an object keep their order
and their repetitions.

A document can be well formed and yet hold something that denotes no value: a number beyond the
doubles, or text with half of a surrogate pair. Such a place, or the object that has such a text as
a name, is `unreadable`. It does no harm where nobody reads it.
-/

namespace SampleChart.Json

inductive Value where
  | null
  | boolean (value : Bool)
  | integer (value : Int)
  | real (value : Float)
  | string (text : String)
  | array (items : List Value)
  | object (fields : List (String × Value))
  | unreadable

namespace Value

mutual

/-- Whether everything in a value can be read. -/
def isReadable : Value → Bool
  | array items => allReadable items
  | object fields => allFieldsReadable fields
  | unreadable => false
  | _ => true

def allReadable : List Value → Bool
  | [] => true
  | item :: rest => item.isReadable && allReadable rest

def allFieldsReadable : List (String × Value) → Bool
  | [] => true
  | (_, value) :: rest => value.isReadable && allFieldsReadable rest

end

mutual

/-- How many arrays and objects lie inside each other in a value. -/
def depth : Value → Nat
  | array items => depthOfItems items + 1
  | object fields => depthOfFields fields + 1
  | _ => 0

def depthOfItems : List Value → Nat
  | [] => 0
  | item :: rest => max item.depth (depthOfItems rest)

def depthOfFields : List (String × Value) → Nat
  | [] => 0
  | (_, value) :: rest => max value.depth (depthOfFields rest)

end

end Value

end SampleChart.Json
