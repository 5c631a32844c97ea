import GraphClient.Json.Basic
/-
  Tables of JSON values.

  Key definitions include:
    * `GraphClient.Table`
    * `GraphClient.Table.align`
    * `GraphClient.Table.push`
    * `GraphClient.Table.column?`

  A row has the columns of its table, in their order; a cell
  without a value is null.  Each value of an added row is handed
  out once: where the table lists a column twice, the second
  place finds nothing left, and a row has only one cell for
  both.
-/

------------------------------------------------------------
-- Tables
------------------------------------------------------------

namespace GraphClient

/- The cells of a row, by column. -/
abbrev Row : Type :=
  OrderedMap Json

/- Columns and rows. -/
structure Table where
  columns : List String
  rows : List Row

namespace Table

/- The table without columns and rows. -/
def empty : Table :=
  ⟨[], []⟩

/- The table with the given columns and no rows. -/
def ofColumns
    (columns : List String) :
    Table :=
  ⟨columns, []⟩

end Table

end GraphClient

------------------------------------------------------------
-- Rows
------------------------------------------------------------

namespace GraphClient

namespace Table

/- Hand out values to columns; what is handed out is gone. -/
def cells :
    List String → Row → Entries Json
| [], _ => []
| column :: columns, values =>
    (column, (values.get? column).getD .null) ::
      cells columns (values.erase column)

/- The row of some values under the given columns. -/
def align
    (columns : List String)
    (values : Row) :
    Row :=
  OrderedMap.ofList (cells columns values)

/- Add a row at the end. -/
def push
    (t : Table)
    (values : Row) :
    Table :=
  { t with rows := t.rows ++ [align t.columns values] }

/- Add rows at the end, in order. -/
def pushAll
    (t : Table)
    (rows : List Row) :
    Table :=
  rows.foldl push t

/- Keep the first rows. -/
def truncate
    (t : Table)
    (n : Nat) :
    Table :=
  { t with rows := t.rows.take n }

end Table

end GraphClient

------------------------------------------------------------
-- Access
------------------------------------------------------------

namespace GraphClient

namespace Table

/- The number of rows. -/
def size
    (t : Table) :
    Nat :=
  t.rows.length

/- Whether there are no rows. -/
def isEmpty
    (t : Table) :
    Bool :=
  t.rows.isEmpty

/- The cell of a row and a column. -/
def get?
    (t : Table)
    (row : Nat)
    (column : String) :
    Option Json :=
  t.rows[row]?.bind (fun r => r.get? column)

/- The cells of a column, if the table has it. -/
def column?
    (t : Table)
    (name : String) :
    Option (List Json) :=
  if name ∈ t.columns then
    some (t.rows.map (fun r => (r.get? name).getD .null))
  else
    none

end Table

end GraphClient

------------------------------------------------------------
-- Column Lists
------------------------------------------------------------

namespace GraphClient

namespace Columns

/- Add a name at the end, unless it is there already. -/
def add
    (columns : List String)
    (name : String) :
    List String :=
  if name ∈ columns then columns else columns ++ [name]

/- Add names in order, each one once. -/
def addAll
    (columns names : List String) :
    List String :=
  names.foldl add columns

end Columns

end GraphClient
