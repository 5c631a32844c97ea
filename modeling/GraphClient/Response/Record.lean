import GraphClient.Json.Writer
/-
  The records of a response.

  Key definitions include:
    * `GraphClient.Response.records`
    * `GraphClient.NodeRecord.ofJson?`
    * `GraphClient.EdgeRecord.ofJson?`
    * `GraphClient.Record.attributes?`

  A response is a list of result sets.  Whatever a result set
  lists under any name is taken for records, in the order of
  the names.  A node record needs an id, an edge record the ids
  of both ends; what is no record is passed over.
-/

------------------------------------------------------------
-- Responses
------------------------------------------------------------

namespace GraphClient

/- Named results, ordered by name. -/
abbrev ResultSet : Type :=
  Entries Json

/- The answer to a query. -/
abbrev Response : Type :=
  List ResultSet

/- The items of the lists in a response, in order. -/
def Response.records
    (response : Response) :
    List Json :=
  response.flatMap (fun set =>
    set.flatMap (fun entry => entry.2.items?.getD []))

end GraphClient

------------------------------------------------------------
-- Parts of Records
------------------------------------------------------------

namespace GraphClient

namespace Record

/- The text of an id: a string or a number. -/
def idText? : Json → Option String
| .string s => some s
| .int n => some (Json.int n).compact
| .float x => some (Json.float x).compact
| _ => none

/- The value of the first of two names that a record has. -/
def either?
    (fields : Entries Json)
    (first second : String) :
    Option Json :=
  match fields.lookup first with
  | some value => some value
  | none => fields.lookup second

/- The attributes of a record, if it has an object of them. -/
def attributes?
    (record : Json) :
    Option (Entries Json) :=
  (record.field? "attributes").bind Json.fields?

end Record

end GraphClient

------------------------------------------------------------
-- Nodes
------------------------------------------------------------

namespace GraphClient

/- The column of ids whose type is not known. -/
def NodeRecord.idColumn : String :=
  "v_id"

/- The column of types. -/
def NodeRecord.typeColumn : String :=
  "v_type"

/- A record of a node. -/
structure NodeRecord where
  id : String
  type? : Option String
  attributes : Entries Json

namespace NodeRecord

/- The node that a record describes. -/
def ofJson?
    (record : Json) :
    Option NodeRecord := do
  let fields ← record.fields?
  let id ← (Record.either? fields idColumn "id").bind Record.idText?
  let type? :=
    (Record.either? fields typeColumn "type").bind Json.string?
  return ⟨id, type?, (Record.attributes? record).getD []⟩

/- The nodes of a response. -/
def all
    (response : Response) :
    List NodeRecord :=
  response.records.filterMap ofJson?

end NodeRecord

end GraphClient

------------------------------------------------------------
-- Edges
------------------------------------------------------------

namespace GraphClient

/- The column of the ids that edges lead from. -/
def EdgeRecord.sourceColumn : String :=
  "from_id"

/- The column of the ids that edges lead to. -/
def EdgeRecord.targetColumn : String :=
  "to_id"

/- A record of an edge. -/
structure EdgeRecord where
  source : String
  target : String
  fields : Entries Json
  attributes : Entries Json

namespace EdgeRecord

/- The edge that a record describes. -/
def ofJson?
    (record : Json) :
    Option EdgeRecord := do
  let fields ← record.fields?
  let source ← (fields.lookup sourceColumn).bind Record.idText?
  let target ← (fields.lookup targetColumn).bind Record.idText?
  return ⟨source, target, fields, (Record.attributes? record).getD []⟩

/- The edges of a response. -/
def all
    (response : Response) :
    List EdgeRecord :=
  response.records.filterMap ofJson?

end EdgeRecord

end GraphClient
