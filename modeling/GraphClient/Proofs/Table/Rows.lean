import GraphClient.Proofs.OrderedMap
import GraphClient.Table.Basic
/-
  The columns and the rows of tables.

  Key theorems include:
    * `GraphClient.Columns.addAll_eq`
    * `GraphClient.Table.rows_pushAll`
    * `GraphClient.Table.keys_align`
    * `GraphClient.Table.get?_align`
    * `GraphClient.Table.get?_pushAll`

  Columns are added in the order in which they are first seen.
  A row that is added has a cell for every column of its table
  and for nothing else.  A value reaches its cell when the
  column is listed once; when it is listed more often, the last
  place finds the value taken, and that is the cell that stays.
-/

------------------------------------------------------------
-- Columns
------------------------------------------------------------

namespace GraphClient

namespace Columns

/- Added names that were not there come last, each one once. -/
theorem addAll_eq
    (columns names : List String) :
    addAll columns names =
      columns ++
        (names.filter (fun name => name ∉ columns)).eraseDups := by
  induction names generalizing columns with
  | nil => simp [addAll]
  | cons name names ih =>
      have hRest := ih (add columns name)
      have hCons := Entries.append_others_cons columns name names
      unfold add at hRest
      by_cases hName : name ∈ columns
      · rw [if_pos hName] at hRest hCons
        rw [hCons, ← hRest]
        simp [addAll, add, hName]
      · rw [if_neg hName] at hRest hCons
        rw [hCons, ← hRest]
        simp [addAll, add, hName]

/- After adding, the names are those of both. -/
theorem mem_addAll_iff
    {columns names : List String}
    {name : String} :
    name ∈ addAll columns names ↔ name ∈ columns ∨ name ∈ names := by
  rw [addAll_eq, List.mem_append, List.mem_eraseDups,
    List.mem_filter]
  by_cases hName : name ∈ columns <;> simp [hName]

/- Adding never makes two columns equal. -/
theorem nodup_addAll
    {columns : List String}
    (hNodup : columns.Nodup)
    (names : List String) :
    (addAll columns names).Nodup := by
  unfold addAll
  induction names generalizing columns with
  | nil => exact hNodup
  | cons name names ih =>
      apply ih
      unfold add
      by_cases hName : name ∈ columns
      · rw [if_pos hName]
        exact hNodup
      · rw [if_neg hName, List.nodup_append]
        refine ⟨hNodup, by simp, ?_⟩
        intro a hA b hB hEq
        rw [hEq, List.mem_singleton.mp hB] at hA
        exact hName hA

end Columns

end GraphClient

------------------------------------------------------------
-- Cells
------------------------------------------------------------

namespace GraphClient

namespace Table

/- The last cell that is handed out for a column. -/
theorem last?_cells
    (columns : List String)
    (values : Row)
    (column : String) :
    Entries.last? column (cells columns values) =
      if column ∈ columns then
        some (if columns.count column = 1 then
          (values.get? column).getD .null
        else
          .null)
      else
        none := by
  induction columns generalizing values with
  | nil => rfl
  | cons first columns ih =>
      have hRest := ih (values.erase first)
      rw [OrderedMap.get?_erase] at hRest
      simp only [cells, Entries.last?, hRest]
      by_cases hFirst : column = first
      · subst hFirst
        by_cases hMem : column ∈ columns
        · -- the value is gone, and the last place counts
          have hCount : columns.count column ≠ 0 :=
            Nat.ne_of_gt (List.count_pos_iff.mpr hMem)
          simp [hMem, List.count_cons_self, hCount]
        · have hCount : columns.count column = 0 :=
            List.count_eq_zero.mpr hMem
          simp [hMem, List.count_cons_self, hCount]
      · have hNe : ¬ first = column := fun h => hFirst h.symm
        by_cases hMem : column ∈ columns
        · simp [hFirst, hNe, hMem, List.count_cons_of_ne hNe]
        · simp [hFirst, hNe, hMem]

/- A cell is handed out for each column, in order. -/
theorem keys_cells
    (columns : List String)
    (values : Row) :
    (cells columns values).keys = columns := by
  induction columns generalizing values with
  | nil => rfl
  | cons column columns ih =>
      exact congrArg (List.cons column) (ih (values.erase column))

/- An aligned row has the columns, those listed twice only once. -/
theorem keys_align
    (columns : List String)
    (values : Row) :
    (align columns values).keys = columns.eraseDups := by
  unfold align
  rw [OrderedMap.keys_ofList, keys_cells]

/- The cell of an aligned row under a column. -/
theorem get?_align
    (columns : List String)
    (values : Row)
    (column : String) :
    (align columns values).get? column =
      if column ∈ columns then
        some (if columns.count column = 1 then
          (values.get? column).getD .null
        else
          .null)
      else
        none := by
  unfold align
  rw [OrderedMap.get?_ofList]
  exact last?_cells columns values column

end Table

end GraphClient

------------------------------------------------------------
-- Added Rows
------------------------------------------------------------

namespace GraphClient

namespace Table

/- Added rows leave the columns as they are. -/
theorem columns_pushAll
    (t : Table)
    (rows : List Row) :
    (t.pushAll rows).columns = t.columns := by
  unfold pushAll
  induction rows generalizing t with
  | nil => rfl
  | cons row rows ih => exact ih (t.push row)

/- Added rows come after those before them, each one aligned. -/
theorem rows_pushAll
    (t : Table)
    (rows : List Row) :
    (t.pushAll rows).rows = t.rows ++ rows.map (align t.columns) := by
  unfold pushAll
  induction rows generalizing t with
  | nil => simp
  | cons row rows ih =>
      have hRest := ih (t.push row)
      simpa [push, List.append_assoc] using hRest

/- The cells of the rows that are added to an empty table. -/
theorem get?_pushAll
    (columns : List String)
    (rows : List Row)
    (i : Nat)
    (column : String) :
    ((ofColumns columns).pushAll rows).get? i column =
      rows[i]?.bind (fun row => (align columns row).get? column) := by
  unfold get?
  rw [rows_pushAll]
  simp only [ofColumns, List.nil_append, List.getElem?_map]
  cases rows[i]? <;> rfl

end Table

end GraphClient
