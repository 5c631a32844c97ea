import GraphClient.Attribute.Encoding
/-
  The parameters of queries.

  Key definitions include:
    * `GraphClient.Parameter`
    * `GraphClient.Parameter.written`
    * `GraphClient.Parameter.toJson`
    * `GraphClient.Parameters`

  Node ids are always sent as parameters; they never become part
  of the text of a query.
-/

------------------------------------------------------------
-- Parameters
------------------------------------------------------------

namespace GraphClient

/- A node, named by its type and its id. -/
structure NodeRef where
  type : String
  id : String
deriving DecidableEq, Repr

/- What a parameter of a query stands for. -/
inductive Parameter
| scalar (value : Value)
| list (values : List Value)
| node (ref : NodeRef)
| nodes (refs : List NodeRef)
deriving DecidableEq

/- The parameters of a query, by name. -/
abbrev Parameters : Type :=
  OrderedMap Parameter

/- The parameter for nodes of one type. -/
def Parameter.nodesOf
    (type : String)
    (ids : List String) :
    Parameter :=
  .nodes (ids.map (fun id => ⟨type, id⟩))

end GraphClient

------------------------------------------------------------
-- Encoding
------------------------------------------------------------

namespace GraphClient

/- What a reference to a node is serialized as. -/
def NodeRef.written
    (ref : NodeRef) :
    Json :=
  .object [("id", .string ref.id), ("type", .string ref.type)]

/- What a parameter is serialized as. -/
def Parameter.written : Parameter → Json
| .scalar value => value.written
| .list values => .array (values.map Value.written)
| .node ref => ref.written
| .nodes refs => .array (refs.map NodeRef.written)

/- The JSON of a parameter in a payload. -/
def Parameter.toJson
    (parameter : Parameter) :
    Json :=
  parameter.written.held

end GraphClient
