import GraphClient.Graph.Basic
import GraphClient.Graph.Batch
import GraphClient.Response.Tables
/-
  Operations on nodes.

  Key definitions include:
    * `GraphClient.Graph.addNode`
    * `GraphClient.Graph.addNodes`
    * `GraphClient.Graph.removeNode`
    * `GraphClient.Graph.hasNode`
    * `GraphClient.Graph.nodeData`
    * `GraphClient.Graph.nodeEdges`
    * `GraphClient.Graph.clear`

  An operation whose call fails ends with what says the least:
  no number, no values, no edges, false.  Only a node that the
  remote graph does not find is an error when its values are
  asked for.  The operations under `Exact` take the names of
  types as they are given; the others resolve references.
-/

------------------------------------------------------------
-- Exact Types
------------------------------------------------------------

namespace GraphClient

namespace Graph

namespace Exact

/- Add a node, or replace its values. -/
def addNode
    (g : Graph)
    (node : NodeRef)
    (bag : Bag) :
    Operation (Option Nat) :=
  Operation.require .schema
    (do (← g.schema.node node.type).checkBag node.type bag)
    (fun _ => Operation.always (.attempt (.upsertNode node bag)))

/- Add nodes of one type in one batch. -/
def addNodes
    (g : Graph)
    (type : String)
    (nodes : List (String × Bag))
    (common : Bag) :
    Operation (Option Nat) :=
  Operation.require .schema
    (Batch.nodes g.schema type common nodes)
    (fun batch => Operation.always (.attempt (.upsertNodes type batch)))

/- Remove a node; whether there was one. -/
def removeNode
    (node : NodeRef) :
    Conversation Bool :=
  .ask (.deleteNode node) (fun (o : Except RemoteError Nat) =>
    match o with
    | .ok deleted => .done (0 < deleted)
    | .error _ => .done false)

/- Whether a node is there. -/
def hasNode
    (node : NodeRef) :
    Conversation Bool :=
  .ask (.retrieveNode node) (fun (o : Except RemoteError (List Json)) =>
    match o with
    | .ok records => .done (!records.isEmpty)
    | .error _ => .done false)

/- The attributes of the first of some records. -/
def firstAttributes?
    (records : List Json) :
    Option (Entries Json) :=
  records.head?.bind Record.attributes?

/- The attributes that a call for records gives. -/
def attributesOf
    (missing : GraphError) :
    Except RemoteError (List Json) →
      Operation (Option (Entries Json))
| .ok records => Operation.succeed (firstAttributes? records)
| .error e =>
    if e.isNotFound then
      Operation.fail missing
    else
      Operation.succeed none

/- The attributes of a node. -/
def nodeData
    (node : NodeRef) :
    Operation (Option (Entries Json)) :=
  .ask (.retrieveNode node) (attributesOf (.noSuchNode node))

/- A sample of the edges of a node. -/
def nodeEdges
    (g : Graph)
    (node : NodeRef)
    (edgeTypes : List String) :
    Operation (List EdgeKey) :=
  Operation.require .compile
    (compileNodeEdges g.name node.type node.id edgeTypes
      g.options.edgeSamples)
    (fun query =>
      .ask (.runInterpreted query.script query.parameters)
        (fun (o : Except RemoteError Response) =>
          match o with
          | .ok response => Operation.succeed (response.edgeKeys g.schema)
          | .error _ => Operation.succeed []))

/- Remove all nodes of each type, up to the first failure. -/
def deleteAll : List String → Conversation Bool
| [] => .done true
| type :: types =>
    .ask (.deleteNodes type) (fun (o : Except RemoteError Nat) =>
      match o with
      | .ok _ => deleteAll types
      | .error _ => .done false)

end Exact

end Graph

end GraphClient

------------------------------------------------------------
-- References
------------------------------------------------------------

namespace GraphClient

namespace Graph

/- Add a node, or replace its values. -/
def addNode
    (g : Graph)
    (id : String)
    (type : TypeRef)
    (bag : Bag) :
    Operation (Option Nat) :=
  g.withNodeType type (fun type =>
    Exact.addNode g ⟨type, id⟩ bag)

/- Add nodes of one type in one batch. -/
def addNodes
    (g : Graph)
    (nodes : List (String × Bag))
    (type : TypeRef)
    (common : Bag) :
    Operation (Option Nat) :=
  g.withNodeType type (fun type =>
    Exact.addNodes g type nodes common)

/- Remove a node; whether there was one. -/
def removeNode
    (g : Graph)
    (id : String)
    (type : TypeRef) :
    Operation Bool :=
  g.withNodeType type (fun type =>
    Operation.always (Exact.removeNode ⟨type, id⟩))

/- Whether a node is there. -/
def hasNode
    (g : Graph)
    (id : String)
    (type : TypeRef) :
    Operation Bool :=
  g.withNodeType type (fun type =>
    Operation.always (Exact.hasNode ⟨type, id⟩))

/- The attributes of a node. -/
def nodeData
    (g : Graph)
    (id : String)
    (type : TypeRef) :
    Operation (Option (Entries Json)) :=
  g.withNodeType type (fun type =>
    Exact.nodeData ⟨type, id⟩)

/- A sample of the edges of a node. -/
def nodeEdges
    (g : Graph)
    (id : String)
    (type : TypeRef)
    (edgeTypes : List String) :
    Operation (List EdgeKey) :=
  g.withNodeType type (fun type =>
    Exact.nodeEdges g ⟨type, id⟩ edgeTypes)

/- Remove all nodes of the graph; whether no call failed. -/
def clear
    (g : Graph) :
    Conversation Bool :=
  Exact.deleteAll g.schema.nodes.keys

end Graph

end GraphClient
