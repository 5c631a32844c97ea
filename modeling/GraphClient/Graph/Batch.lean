import GraphClient.Schema.Resolution
/-
  Batches of writes.

  Key definitions include:
    * `GraphClient.Batch.prepare`
    * `GraphClient.Batch.nodes`
    * `GraphClient.Batch.edges`

  Every item of a batch has values of its own, and common values
  are written over them.  A batch is refused as a whole, for the
  first item whose values do not fit.
-/

------------------------------------------------------------
-- Batches
------------------------------------------------------------

namespace GraphClient

namespace Batch

/- Add common values to each item, and check the result. -/
def prepare
    {κ : Type}
    (check : Bag → Except SchemaError Unit)
    (common : Bag) :
    List (κ × Bag) → Except SchemaError (List (κ × Bag))
| [] => .ok []
| (key, own) :: rest => do
    let bag := own.override common
    check bag
    let items ← prepare check common rest
    return (key, bag) :: items

/- Prepare nodes of one type; the type has to be defined. -/
def nodes
    {κ : Type}
    (schema : Schema)
    (type : String)
    (common : Bag)
    (items : List (κ × Bag)) :
    Except SchemaError (List (κ × Bag)) := do
  let nodeType ← schema.node type
  prepare (nodeType.checkBag type) common items

/- Check the values of an edge of a type. -/
def checkEdge
    (schema : Schema)
    (type : String)
    (bag : Bag) :
    Except SchemaError Unit := do
  let edgeType ← schema.edge type
  edgeType.checkBag type bag

/- Prepare edges of one type. -/
def edges
    {κ : Type}
    (schema : Schema)
    (type : String)
    (common : Bag)
    (items : List (κ × Bag)) :
    Except SchemaError (List (κ × Bag)) :=
  prepare (checkEdge schema type) common items

end Batch

end GraphClient
