/-!
# Values chosen by name

A user picks a layout or a dispersion by its name. `Named.ofName?` finds the value with a name,
either as it is written or without regard to the case of the letters `a` to `z`.
-/

namespace SampleChart

/-- A type with finitely many values that each have a name. -/
class Named (α : Type) where
  /-- The values in the order in which they are offered. -/
  all : List α
  /-- The name of a value. -/
  name : α → String

namespace Named

/-- Whether a text counts as a name. -/
def sameName (ignoreCase : Bool) (name text : String) : Bool :=
  if ignoreCase then name.toList.map Char.toLower == text.toList.map Char.toLower
  else name == text

/-- The value with the name that is given. -/
def ofName? {α : Type} [Named α] (ignoreCase : Bool) (text : String) : Option α :=
  all.find? fun value => sameName ignoreCase (name value) text

end Named

end SampleChart
