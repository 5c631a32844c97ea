import GraphClient.Graph.Basic
/-
  Numbers about a graph.

  Key definitions include:
    * `GraphClient.Graph.degree`
    * `GraphClient.Graph.nodeCount`
    * `GraphClient.Graph.edgeCount`

  A call that fails, or that answers something else than a
  number, counts as zero.  Without a type, all types are counted.
-/

------------------------------------------------------------
-- Degrees
------------------------------------------------------------

namespace GraphClient

namespace Graph

/- The parameters of the degree query. -/
def degreeParameters
    (node : NodeRef)
    (edgeTypes : List String) :
    Parameters :=
  (OrderedMap.empty.insert "input" (.node node)).insert
    "edge_types" (.list (edgeTypes.map .string))

/- The degree that a response gives. -/
def degreeOf
    (response : Response) :
    Nat :=
  ((response.head?.bind (fun set => set.lookup "degree")).bind
    Json.nat?).getD 0

/- The number of edges of a node; no types stand for all. -/
def degree
    (g : Graph)
    (id : String)
    (type : TypeRef)
    (edgeTypes : List String) :
    Operation Nat :=
  g.withNodeType type (fun type =>
    .ask (.runInstalled g.options.degreeQuery
        (degreeParameters ⟨type, id⟩ edgeTypes))
      (fun (o : Except RemoteError Response) =>
        match o with
        | .ok response => Operation.succeed (degreeOf response)
        | .error _ => Operation.succeed 0))

end Graph

end GraphClient

------------------------------------------------------------
-- Numbers of Nodes and Edges
------------------------------------------------------------

namespace GraphClient

namespace Graph

/- The sum of the numbers that are answered. -/
def sumCounts
    (count : String → Conversation (Option Nat)) :
    List String → Conversation Nat
| [] => .done 0
| type :: types =>
    (count type).andThen (fun n =>
      (sumCounts count types).map (fun rest => n.getD 0 + rest))

/- The types to count: the one that is named, or all. -/
def countedTypes
    (element : Element)
    (defined : List String)
    (ref : TypeRef) :
    Except SchemaError (List String) :=
  match TypeRef.name? ref with
  | none => .ok defined
  | some _ =>
      match Schema.resolve element defined ref with
      | .ok name => .ok [name]
      | .error e => .error e

/- The number of nodes of a type, or of all. -/
def nodeCount
    (g : Graph)
    (type : TypeRef) :
    Operation Nat :=
  Operation.require .schema
    (countedTypes .node g.schema.nodes.keys type)
    (fun types =>
      Operation.always (sumCounts (fun t => .attempt (.countNodes t)) types))

/- The number of edges of a type, or of all. -/
def edgeCount
    (g : Graph)
    (type : TypeRef) :
    Operation Nat :=
  Operation.require .schema
    (countedTypes .edge g.schema.edges.keys type)
    (fun types =>
      Operation.always (sumCounts (fun t => .attempt (.countEdges t)) types))

end Graph

end GraphClient
