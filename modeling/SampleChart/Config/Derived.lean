import SampleChart.Text.Blank
import SampleChart.Text.Lines

/-!
# Derived series

A derived series is the sum of other series and is written `name=a+b`. The name ends at the first
equals sign and a part at each plus sign, so that a part may hold an equals sign and a name a plus
sign. Blanks around a name do not count, and no name may be empty.
-/

namespace SampleChart

/-- A series that is the sum of its parts. -/
structure DerivedSeries where
  name : String
  parts : List String
  deriving DecidableEq, Repr

namespace DerivedSeries

/-- Why a text is no derived series. -/
inductive Fault where
  /-- The text has no equals sign. -/
  | noEqualsSign (text : String)
  /-- A name in the text is empty. -/
  | emptyName (text : String)
  deriving DecidableEq, Repr

def Fault.message : Fault → String
  | noEqualsSign text => s!"expected `name=a+b`, got `{text}`"
  | emptyName text => s!"empty series name in `{text}`"

def parse (text : String) : Except Fault DerivedSeries :=
  match Text.cutAtFirst '=' text.toList with
  | none => .error (.noEqualsSign text)
  | some (before, after) =>
      let name := Text.Characters.trim before
      let parts := (Text.cutBetween '+' after).map Text.Characters.trim
      if name.isEmpty || parts.any List.isEmpty then .error (.emptyName text)
      else .ok ⟨String.ofList name, parts.map String.ofList⟩

def render (derived : DerivedSeries) : String :=
  derived.name ++ "=" ++ "+".intercalate derived.parts

end DerivedSeries

end SampleChart
