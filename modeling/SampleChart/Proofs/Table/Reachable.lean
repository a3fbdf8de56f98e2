import SampleChart.Proofs.Reading.Registers

/-!
# Reachable tables

The tables that a program can come to hold: the empty one, those read from a text or a file in any
layout, and those that a sum adds a series to. All of them are well formed. A sum that fails gives
no table, so it leaves the one that it was asked of as it is.
-/

namespace SampleChart.Table

/-- The tables that reading and adding sums lead to. -/
inductive Reachable : Table → Prop
  | empty : Reachable .empty
  | parsed {layout : Layout} {text : String} {table : Table}
      (read : parse layout text = .ok table) : Reachable table
  | read {layout : Layout} {bytes : ByteArray} {table : Table}
      (read : ofBytes layout bytes = .ok table) : Reachable table
  | summed {table result : Table} {name : String} {parts : List String}
      (reachable : Reachable table) (sum : table.withSum name parts = .ok result) :
      Reachable result

theorem wellFormed_of_ofLines {layout : Layout} {lines : List (Option String)} {table : Table}
    (read : ofLines layout lines = .ok table) : table.WellFormed := by
  rw [ofLines, map_eq_ok_iff] at read
  rcases read with ⟨reading, read, rfl⟩
  rcases Reading.exists_texts_of_readLines read with ⟨texts, rfl⟩
  rw [Reading.readLines_eq_ok_iff] at read
  exact (Reading.coherent_of_readContents read).table_wellFormed

/-- Whatever a table was made by, its lists of names are sound and every group is under names that
it lists. -/
theorem Reachable.wellFormed {table : Table} (reachable : table.Reachable) :
    table.WellFormed := by
  induction reachable with
  | empty => exact WellFormed.empty
  | parsed read => exact wellFormed_of_ofLines read
  | read read => exact wellFormed_of_ofLines read
  | summed _ sum ih => exact ih.withSum sum

end SampleChart.Table
