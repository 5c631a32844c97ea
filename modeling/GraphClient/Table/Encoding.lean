import GraphClient.Json.Reader
import GraphClient.Table.Basic
/-
  Tables as JSON.

  Key definitions include:
    * `GraphClient.Table.toJson`
    * `GraphClient.Table.parse`

  Rows are written and read as they are: what is read need not
  have the columns of its table.
-/

------------------------------------------------------------
-- Writing
------------------------------------------------------------

namespace GraphClient

/- The JSON of a row, in its own order. -/
def Row.toJson
    (row : Row) :
    Json :=
  .object row.entries

/- The JSON of a table. -/
def Table.toJson
    (t : Table) :
    Json :=
  .object
    [("columns", Json.strings t.columns),
      ("rows", .array (t.rows.map Row.toJson))]

end GraphClient

------------------------------------------------------------
-- Reading
------------------------------------------------------------

namespace GraphClient

open Json (Reader RecordForm)

namespace Table

/- The parts of a table that have been read. -/
structure Slots where
  columns : Option (List String)
  rows : Option (List Row)

/- The fields of a table. -/
def form : RecordForm Slots where
  name := "DataFrame"
  fields :=
    [.of "columns" Slots.columns
        (fun slots columns => { slots with columns := some columns })
        (Reader.list Reader.string),
      .of "rows" Slots.rows
        (fun slots rows => { slots with rows := some rows })
        (Reader.list (Reader.map Reader.any))]

/- The table of its parts; it needs both. -/
def Slots.table
    (absent : String → Json.Misfit)
    (slots : Slots) :
    Except Json.Misfit Table := do
  let columns ← Reader.required absent "columns" slots.columns
  let rows ← Reader.required absent "rows" slots.rows
  return ⟨columns, rows⟩

/- Read a table. -/
def reader : Reader Table :=
  Reader.record form ⟨none, none⟩ Slots.table

/- The table of a text. -/
def parse
    (text : String) :
    Except Json.Fault Table :=
  Reader.run reader text

end Table

end GraphClient
