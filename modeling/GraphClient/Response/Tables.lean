import GraphClient.Response.Record
import GraphClient.Schema.Resolution
import GraphClient.Table.Basic
/-
  The tables of responses.

  Key definitions include:
    * `GraphClient.Response.nodeTable`
    * `GraphClient.Response.edgeTable`
    * `GraphClient.Response.edgeKeys`

  A table has a row for each record.  Its columns are those
  that the request named, or else the ids followed by every
  attribute that some record has, in the order in which they
  are first seen.
-/

------------------------------------------------------------
-- Nodes
------------------------------------------------------------

namespace GraphClient

namespace NodeRecord

/- The column of the id: the primary key of the type. -/
def keyColumn
    (schema : Schema)
    (node : NodeRecord) :
    String :=
  (node.type?.bind schema.primaryKey?).getD idColumn

/- What a record has for a column, attributes first. -/
def cell?
    (schema : Schema)
    (isProjected : Bool)
    (node : NodeRecord)
    (column : String) :
    Option Json :=
  match node.attributes.lookup column with
  | some value => some value
  | none =>
      if column = node.keyColumn schema ||
          (isProjected && column = idColumn) then
        some (.string node.id)
      else if column = typeColumn then
        node.type?.map .string
      else
        none

/- What a record has for the given columns. -/
def row
    (schema : Schema)
    (isProjected : Bool)
    (columns : List String)
    (node : NodeRecord) :
    Row :=
  OrderedMap.ofList (columns.filterMap (fun column =>
    (node.cell? schema isProjected column).map
      (fun value => (column, value))))

/- The id columns of records, then their attributes. -/
def columns
    (schema : Schema)
    (nodes : List NodeRecord) :
    List String :=
  Columns.addAll
    (Columns.addAll [] (nodes.map (keyColumn schema)))
    (nodes.flatMap (fun node => node.attributes.keys))

end NodeRecord

/- The table of the nodes in a response. -/
def Response.nodeTable
    (schema : Schema)
    (response : Response)
    (projection? : Option (List String)) :
    Table :=
  let nodes := NodeRecord.all response
  let columns :=
    projection?.getD (NodeRecord.columns schema nodes)
  (Table.ofColumns columns).pushAll
    (nodes.map (NodeRecord.row schema projection?.isSome columns))

end GraphClient

------------------------------------------------------------
-- Edges
------------------------------------------------------------

namespace GraphClient

namespace EdgeRecord

/- What a record has for a column, attributes first. -/
def cell?
    (edge : EdgeRecord)
    (column : String) :
    Option Json :=
  match edge.attributes.lookup column with
  | some value => some value
  | none => edge.fields.lookup column

/- The ends of an edge, and what it has for the other columns. -/
def row
    (others : List String)
    (edge : EdgeRecord) :
    Row :=
  OrderedMap.ofList
    ((sourceColumn, .string edge.source) ::
      (targetColumn, .string edge.target) ::
      others.filterMap (fun column =>
        (edge.cell? column).map (fun value => (column, value))))

/- The columns of the ends. -/
def endColumns : List String :=
  [sourceColumn, targetColumn]

/- The columns of a table of edges. -/
def columns
    (edges : List EdgeRecord)
    (projection? : Option (List String)) :
    List String :=
  Columns.addAll endColumns
    (projection?.getD
      (edges.flatMap (fun edge => edge.attributes.keys)))

end EdgeRecord

/- The first items of a list, or all without a limit. -/
def takeLimit
    {α : Type}
    (limit? : Option Nat)
    (items : List α) :
    List α :=
  match limit? with
  | none => items
  | some n => items.take n

/- The table of the edges in a response. -/
def Response.edgeTable
    (response : Response)
    (projection? : Option (List String))
    (limit? : Option Nat) :
    Table :=
  let edges := EdgeRecord.all response
  if edges.isEmpty && projection?.isNone then
    Table.empty
  else
    let columns := EdgeRecord.columns edges projection?
    let others := columns.drop EdgeRecord.endColumns.length
    (Table.ofColumns columns).pushAll
      ((takeLimit limit? edges).map (EdgeRecord.row others))

end GraphClient

------------------------------------------------------------
-- Edge Keys
------------------------------------------------------------

namespace GraphClient

/- What tells an edge from all others of its type. -/
structure EdgeKey where
  source : String
  target : String
  discriminator? : Option Json

namespace EdgeKey

/- One value for one discriminator, an array for several. -/
def combine : List Json → Option Json
| [] => none
| [value] => some value
| values => some (.array values)

/- The discriminators of the type that a record names. -/
def discriminators
    (schema : Schema)
    (edge : EdgeRecord) :
    List String :=
  match (edge.fields.lookup "e_type").bind Json.string? with
  | none => []
  | some name =>
      match schema.edges.get? name with
      | none => []
      | some type => type.discriminator

/- The key of a record; a missing discriminator is null. -/
def ofRecord
    (schema : Schema)
    (edge : EdgeRecord) :
    EdgeKey where
  source := edge.source
  target := edge.target
  discriminator? :=
    combine ((discriminators schema edge).map (fun name =>
      (edge.attributes.lookup name).getD .null))

end EdgeKey

/- The keys of the edges in a response. -/
def Response.edgeKeys
    (schema : Schema)
    (response : Response) :
    List EdgeKey :=
  (EdgeRecord.all response).map (EdgeKey.ofRecord schema)

end GraphClient
