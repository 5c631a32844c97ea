import GraphClient.Graph.Nodes
/-
  Operations on edges.

  Key definitions include:
    * `GraphClient.Graph.addEdge`
    * `GraphClient.Graph.addEdges`
    * `GraphClient.Graph.hasEdge`
    * `GraphClient.Graph.edgeData`

  The values of an edge are checked against its type; the types
  of its ends are checked only where references are resolved.
-/

------------------------------------------------------------
-- Exact Types
------------------------------------------------------------

namespace GraphClient

namespace Graph

namespace Exact

/- Add an edge. -/
def addEdge
    (g : Graph)
    (link : Link)
    (bag : Bag) :
    Operation (Option Nat) :=
  Operation.require .schema
    (Batch.checkEdge g.schema link.route.edge bag)
    (fun _ => Operation.always (.attempt (.upsertEdge link bag)))

/- Add edges of one type in one batch. -/
def addEdges
    (g : Graph)
    (route : Route)
    (edges : List (Ends × Bag))
    (common : Bag) :
    Operation (Option Nat) :=
  Operation.require .schema
    (Batch.edges g.schema route.edge common edges)
    (fun batch => Operation.always (.attempt (.upsertEdges route batch)))

/- Whether an edge is there. -/
def hasEdge
    (link : Link) :
    Conversation Bool :=
  .ask (.countLink link) (fun (o : Except RemoteError Nat) =>
    match o with
    | .ok n => .done (0 < n)
    | .error _ => .done false)

/- The attributes of the first edge between two nodes. -/
def edgeData
    (link : Link) :
    Operation (Option (Entries Json)) :=
  .ask (.getLink link) (attributesOf (.noSuchLink link))

end Exact

end Graph

end GraphClient

------------------------------------------------------------
-- References
------------------------------------------------------------

namespace GraphClient

namespace Graph

/- Add an edge. -/
def addEdge
    (g : Graph)
    (ends : Ends)
    (types : RouteRef)
    (bag : Bag) :
    Operation (Option Nat) :=
  g.withRoute types (fun route =>
    Exact.addEdge g ⟨route, ends⟩ bag)

/- Add edges of one type in one batch. -/
def addEdges
    (g : Graph)
    (edges : List (Ends × Bag))
    (types : RouteRef)
    (common : Bag) :
    Operation (Option Nat) :=
  g.withRoute types (fun route =>
    Exact.addEdges g route edges common)

/- Whether an edge is there. -/
def hasEdge
    (g : Graph)
    (ends : Ends)
    (types : RouteRef) :
    Operation Bool :=
  g.withRoute types (fun route =>
    Operation.always (Exact.hasEdge ⟨route, ends⟩))

/- The attributes of the first edge between two nodes. -/
def edgeData
    (g : Graph)
    (ends : Ends)
    (types : RouteRef) :
    Operation (Option (Entries Json)) :=
  g.withRoute types (fun route =>
    Exact.edgeData ⟨route, ends⟩)

end Graph

end GraphClient
