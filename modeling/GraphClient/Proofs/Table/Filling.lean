import GraphClient.Proofs.Table.Rows
/-
  Tables that are filled row by row.

  Key definitions include:
    * `GraphClient.Table.Made`
    * `GraphClient.Table.Aligned`

  Key theorems include:
    * `GraphClient.Table.align_congr`
    * `GraphClient.Table.Made.aligned`
    * `GraphClient.Table.Aligned.getElem?_column`
    * `GraphClient.Table.made_rows`

  However rows are added to a table and cut off again, each row
  that is left has the columns of the table, those listed twice
  only once.  So a column has a cell in every row.
-/

------------------------------------------------------------
-- Order of Values
------------------------------------------------------------

namespace GraphClient

namespace Table

/- What is handed out does not depend on the order of values. -/
theorem cells_congr
    {values others : Row}
    (hSame : ∀ column, values.get? column = others.get? column)
    (columns : List String) :
    cells columns values = cells columns others := by
  induction columns generalizing values others with
  | nil => rfl
  | cons column columns ih =>
      have hRest :
          cells columns (values.erase column) =
            cells columns (others.erase column) := by
        apply ih
        intro other
        rw [OrderedMap.get?_erase, OrderedMap.get?_erase, hSame]
      rw [cells, cells, hSame, hRest]

/- Values in another order make the same row. -/
theorem align_congr
    {values others : Row}
    (hSame : ∀ column, values.get? column = others.get? column)
    (columns : List String) :
    align columns values = align columns others := by
  unfold align
  rw [cells_congr hSame]

end Table

end GraphClient

------------------------------------------------------------
-- Filled Tables
------------------------------------------------------------

namespace GraphClient

namespace Table

/- The tables that come of adding rows and keeping the first. -/
inductive Made : List String → Table → Prop
| empty : Made [] .empty
| ofColumns (columns : List String) :
    Made columns (.ofColumns columns)
| push
    {columns : List String}
    {t : Table}
    (hMade : Made columns t)
    (values : Row) :
    Made columns (t.push values)
| truncate
    {columns : List String}
    {t : Table}
    (hMade : Made columns t)
    (n : Nat) :
    Made columns (t.truncate n)

/- The rows have the columns of the table, each one once. -/
structure Aligned
    (columns : List String)
    (t : Table) :
    Prop where
  listed : t.columns = columns
  keys : ∀ row ∈ t.rows, OrderedMap.keys row = columns.eraseDups

variable {columns : List String}
variable {t : Table}

/- A row that is added is aligned with the others. -/
theorem Aligned.push
    (hAligned : t.Aligned columns)
    (values : Row) :
    (t.push values).Aligned columns where
  listed := hAligned.listed
  keys := by
    intro row hRow
    rcases List.mem_append.mp hRow with hBefore | hLast
    · exact hAligned.keys row hBefore
    · rw [List.mem_singleton.mp hLast, hAligned.listed]
      exact keys_align columns values

/- The rows that are left were there before. -/
theorem Aligned.truncate
    (hAligned : t.Aligned columns)
    (n : Nat) :
    (t.truncate n).Aligned columns where
  listed := hAligned.listed
  keys := fun row hRow =>
    hAligned.keys row (List.mem_of_mem_take hRow)

/- However a table is filled, its rows are aligned. -/
theorem Made.aligned
    (hMade : Made columns t) :
    t.Aligned columns := by
  induction hMade with
  | empty => exact ⟨rfl, fun _ hRow => by cases hRow⟩
  | ofColumns columns => exact ⟨rfl, fun _ hRow => by cases hRow⟩
  | push _ values ih => exact ih.push values
  | truncate _ n ih => exact ih.truncate n

end Table

end GraphClient

------------------------------------------------------------
-- Columns of Filled Tables
------------------------------------------------------------

namespace GraphClient

namespace Table

variable {columns : List String}
variable {t : Table}

/- There are no other columns than those that are listed. -/
theorem column?_eq_none_iff
    {name : String} :
    t.column? name = none ↔ name ∉ t.columns := by
  unfold column?
  simp

/- A column that is listed has a cell for each row. -/
theorem column?_eq_some_iff
    {name : String}
    {cells : List Json} :
    t.column? name = some cells ↔
      name ∈ t.columns ∧
        t.rows.map (fun row => (row.get? name).getD .null) =
          cells := by
  unfold column?
  by_cases hName : name ∈ t.columns <;> simp [hName]

/- A row has a cell for each column. -/
theorem Aligned.exists_cell
    (hAligned : t.Aligned columns)
    {row : Row}
    (hRow : row ∈ t.rows)
    {name : String}
    (hName : name ∈ t.columns) :
    ∃ cell, row.get? name = some cell := by
  apply Option.isSome_iff_exists.mp
  apply (OrderedMap.contains_iff row name).mpr
  rw [hAligned.keys row hRow, List.mem_eraseDups, ← hAligned.listed]
  exact hName

/- The cells of a column are those of the rows, in order. -/
theorem Aligned.getElem?_column
    (hAligned : t.Aligned columns)
    {name : String}
    {cells : List Json}
    (hCells : t.column? name = some cells)
    (i : Nat) :
    cells[i]? = t.get? i name := by
  rcases column?_eq_some_iff.mp hCells with ⟨hName, rfl⟩
  unfold get?
  rw [List.getElem?_map]
  cases hRow : t.rows[i]? with
  | none => rfl
  | some row =>
      -- so that no cell is null for want of a column in its row
      rcases hAligned.exists_cell (List.mem_of_getElem? hRow) hName
        with ⟨cell, hCell⟩
      simp [hCell]

/-
  However a table is filled, each of its rows has the columns in
  their order, those listed again left out.  One more row comes
  after the others and leaves them as they are; under a column
  that is listed once it shows its value, and null without one,
  and the order of the values does not matter.  Of a table that
  is cut off the first rows are left.  A column that is listed
  has the cells of all rows and no others; there are no columns
  that are not listed.
-/
theorem made_rows
    (hMade : Made columns t) :
    t.columns = columns ∧
      (∀ row ∈ t.rows,
        OrderedMap.keys row = columns.eraseDups) ∧
      (∀ values : Row,
        ∃ row : Row,
          (t.push values).rows = t.rows ++ [row] ∧
            row.keys = columns.eraseDups ∧
            (∀ column, columns.count column = 1 →
              row.get? column =
                some ((values.get? column).getD .null)) ∧
            ∀ others : Row,
              (∀ column,
                values.get? column = others.get? column) →
              t.push others = t.push values) ∧
      (∀ n i,
        (t.truncate n).rows[i]? =
          if i < n then t.rows[i]? else none) ∧
      ∀ name,
        (t.column? name = none ↔ name ∉ columns) ∧
          ∀ cells, t.column? name = some cells →
            cells.length = t.size ∧
              ∀ i, cells[i]? = t.get? i name := by
  have hAligned := hMade.aligned
  refine ⟨hAligned.listed, hAligned.keys, ?_, ?_, ?_⟩
  · intro values
    refine ⟨align columns values, ?_, keys_align columns values,
      ?_, ?_⟩
    · rw [← hAligned.listed]
      rfl
    · intro column hOnce
      have hColumn : column ∈ columns :=
        List.count_pos_iff.mp (by omega)
      rw [get?_align, if_pos hColumn, if_pos hOnce]
    · intro others hSame
      unfold push
      rw [align_congr hSame]
  · intro n i
    exact List.getElem?_take
  · intro name
    rw [column?_eq_none_iff, hAligned.listed]
    refine ⟨Iff.rfl, ?_⟩
    intro cells hCells
    refine ⟨?_, hAligned.getElem?_column hCells⟩
    rcases column?_eq_some_iff.mp hCells with ⟨_, rfl⟩
    exact List.length_map _

/- The values of a person, with a rank among them. -/
def ranked : Row :=
  OrderedMap.ofList
    [("rank", .int 3), ("id", .string "n2"), ("name", .string "B")]

/-
  Of two rows the second is cut off again.  In the row that comes
  in its place there is no rank, and one id.
-/
theorem made_rows_ranked :
    let t := (((ofColumns ["id", "name", "id"]).push ranked).push
      .empty).truncate 1
    (t.push ranked).column? "name" =
        some [.string "B", .string "B"] ∧
      (t.push ranked).column? "rank" = none ∧
      ∀ row ∈ (t.push ranked).rows,
        OrderedMap.keys row = ["id", "name"] := by
  intro t
  have hMade : Made ["id", "name", "id"] (t.push ranked) :=
    ((((Made.ofColumns _).push ranked).push .empty).truncate 1).push
      ranked
  rcases made_rows hMade with ⟨_, hKeys, _, _, hColumns⟩
  exact ⟨rfl, (hColumns "rank").1.mpr (by decide), hKeys⟩

end Table

end GraphClient
