import GraphClient.Graph.Basic
import GraphClient.Response.Tables
/-
  Queries on a graph.

  Key definitions include:
    * `GraphClient.Graph.runQuery`
    * `GraphClient.Graph.findNodes`
    * `GraphClient.Graph.findNeighbors`
    * `GraphClient.Graph.findEdges`
    * `GraphClient.Graph.nodes`
    * `GraphClient.Graph.neighbors`
    * `GraphClient.Graph.edges`

  A request that has no query is an error; a query that fails
  gives the empty table.
-/

------------------------------------------------------------
-- Requests
------------------------------------------------------------

namespace GraphClient

namespace Graph

/- Run an installed query. -/
def runQuery
    (name : String)
    (parameters : Parameters) :
    Conversation (Option Response) :=
  .attempt (.runInstalled name parameters)

/- Run a query, and make a table of its response. -/
def tabulate
    (query : Except CompileError Query)
    (table : Response → Table) :
    Operation Table :=
  Operation.require .compile query (fun query =>
    .ask (.runInterpreted query.script query.parameters)
      (fun (o : Except RemoteError Response) =>
        match o with
        | .ok response => Operation.succeed (table response)
        | .error _ => Operation.succeed Table.empty))

/- The nodes of a request. -/
def findNodes
    (g : Graph)
    (request : NodeRequest) :
    Operation Table :=
  tabulate (request.compile g.name) (fun response =>
    response.nodeTable g.schema request.restriction.projection?)

/- The neighbors of a request. -/
def findNeighbors
    (g : Graph)
    (request : NeighborRequest) :
    Operation Table :=
  tabulate (request.compile g.name) (fun response =>
    response.nodeTable g.schema request.restriction.projection?)

/- The edges of a request. -/
def findEdges
    (g : Graph)
    (request : EdgeRequest) :
    Operation Table :=
  tabulate (request.compile g.name) (fun response =>
    response.edgeTable request.restriction.projection?
      request.restriction.limit?)

end Graph

end GraphClient

------------------------------------------------------------
-- Whole Types
------------------------------------------------------------

namespace GraphClient

namespace Graph

/- The nodes of a type. -/
def nodes
    (g : Graph)
    (type : TypeRef) :
    Operation Table :=
  Operation.require .ofRequest
    (NodeRequest.Form.buildWith g.schema
      { NodeRequest.Form.blank with type? := type })
    g.findNodes

/- The neighbors of nodes of a type. -/
def neighbors
    (g : Graph)
    (startNodes : List String)
    (type : TypeRef) :
    Operation Table :=
  Operation.require .ofRequest
    (NeighborRequest.Form.buildWith g.schema
      { NeighborRequest.Form.blank startNodes with
        startType? := type })
    g.findNeighbors

/- The edges of a type, or of any. -/
def edges
    (g : Graph)
    (type : TypeRef) :
    Operation Table :=
  let pattern : Pattern :=
    { Pattern.any with edgeTypes := (TypeRef.name? type).toList }
  Operation.require .ofRequest
    (EdgeRequest.Form.buildWith g.schema
      { EdgeRequest.Form.blank with pattern := pattern })
    g.findEdges

end Graph

end GraphClient
