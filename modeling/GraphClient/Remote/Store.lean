import GraphClient.Attribute.Encoding
import GraphClient.Remote.Conversation
/-
  A graph kept in memory.

  Key definitions include:
    * `GraphClient.Store`
    * `GraphClient.Store.perform`
    * `GraphClient.Store.service`

  A node is known by its type and id, and writing it replaces
  its values.  Every written edge is kept, also beside another
  one between the same nodes.  Queries and commands are not
  understood: they take the next answer that waits for them.
  A verb can be made to fail, and then does nothing.
-/

------------------------------------------------------------
-- Stores
------------------------------------------------------------

namespace GraphClient

/- The nodes and edges of a graph, and what waits for calls. -/
structure Store where
  nodes : List (NodeRef × Bag)
  edges : List (Link × Bag)
  failures : List (Verb × RemoteError)
  responses : List Response
  outputs : List String

namespace Store

/- The store of an empty graph. -/
def empty : Store :=
  ⟨[], [], [], [], []⟩

/- Make a verb fail from now on. -/
def fail
    (s : Store)
    (verb : Verb)
    (e : RemoteError) :
    Store :=
  { s with
    failures :=
      (verb, e) :: s.failures.filter (fun f => f.1 ≠ verb) }

/- Make a verb work again. -/
def recover
    (s : Store)
    (verb : Verb) :
    Store :=
  { s with failures := s.failures.filter (fun f => f.1 ≠ verb) }

/- The error of a verb that has been made to fail. -/
def failure?
    (s : Store)
    (verb : Verb) :
    Option RemoteError :=
  (s.failures.find? (fun f => f.1 = verb)).map Prod.snd

/- Let a response wait for a query. -/
def pushResponse
    (s : Store)
    (response : Response) :
    Store :=
  { s with responses := s.responses ++ [response] }

/- Let an output wait for a command. -/
def pushOutput
    (s : Store)
    (output : String) :
    Store :=
  { s with outputs := s.outputs ++ [output] }

end Store

end GraphClient

------------------------------------------------------------
-- Nodes and Edges
------------------------------------------------------------

namespace GraphClient

namespace Store

/- The values of a node, if it is there. -/
def node?
    (s : Store)
    (node : NodeRef) :
    Option Bag :=
  (s.nodes.find? (fun entry => entry.1 = node)).map Prod.snd

/- Remove the nodes that meet a condition. -/
def dropNodes
    (s : Store)
    (p : NodeRef → Bool) :
    Store :=
  { s with nodes := s.nodes.filter (fun entry => !p entry.1) }

/- Write a node in place of an earlier one. -/
def putNode
    (s : Store)
    (node : NodeRef)
    (bag : Bag) :
    Store :=
  let rest := s.dropNodes (fun other => other = node)
  { rest with nodes := (node, bag) :: rest.nodes }

/- Write an edge. -/
def putEdge
    (s : Store)
    (link : Link)
    (bag : Bag) :
    Store :=
  { s with edges := s.edges ++ [(link, bag)] }

/- The values of the edges between two nodes, oldest first. -/
def linked
    (s : Store)
    (link : Link) :
    List Bag :=
  (s.edges.filter (fun entry => entry.1 = link)).map Prod.snd

/- The number of nodes of a type. -/
def nodeCount
    (s : Store)
    (type : String) :
    Nat :=
  s.nodes.countP (fun entry => entry.1.type = type)

/- The number of edges of a type. -/
def edgeCount
    (s : Store)
    (type : String) :
    Nat :=
  s.edges.countP (fun entry => entry.1.route.edge = type)

end Store

end GraphClient

------------------------------------------------------------
-- Records
------------------------------------------------------------

namespace GraphClient

/- The record of a node. -/
def NodeRef.record
    (node : NodeRef)
    (bag : Bag) :
    Json :=
  .object
    [("attributes", bag.toSortedJson),
      ("v_id", .string node.id),
      ("v_type", .string node.type)]

/- The record of an edge. -/
def Link.record
    (link : Link)
    (bag : Bag) :
    Json :=
  .object
    [("attributes", bag.toSortedJson),
      ("e_type", .string link.route.edge),
      ("from_id", .string link.ends.source),
      ("from_type", .string link.route.source),
      ("to_id", .string link.ends.target),
      ("to_type", .string link.route.target)]

end GraphClient

------------------------------------------------------------
-- Answers
------------------------------------------------------------

namespace GraphClient

namespace Store

/- Take the next response; without one it is empty. -/
def takeResponse
    (s : Store) :
    Response × Store :=
  match s.responses with
  | [] => ([], s)
  | response :: rest => (response, { s with responses := rest })

/- Take the next output; without one it is empty. -/
def takeOutput
    (s : Store) :
    String × Store :=
  match s.outputs with
  | [] => ("", s)
  | output :: rest => (output, { s with outputs := rest })

/- Do what a call asks for. -/
def perform
    (s : Store) :
    (call : Call) → call.Answer × Store
| .runInstalled _ _ => s.takeResponse
| .runInterpreted _ _ => s.takeResponse
| .upsertNode node bag => ((1 : Nat), s.putNode node bag)
| .upsertEdge link bag => ((1 : Nat), s.putEdge link bag)
| .countLink link => ((s.linked link).length, s)
| .getLink link => ((s.linked link).map link.record, s)
| .retrieveNode node =>
    (((s.node? node).map node.record).toList, s)
| .deleteNode node =>
    (if (s.node? node).isSome then (1 : Nat) else (0 : Nat),
      s.dropNodes (fun other => other = node))
| .deleteNodes type =>
    (s.nodeCount type, s.dropNodes (fun node => node.type = type))
| .countNodes type => (s.nodeCount type, s)
| .countEdges type => (s.edgeCount type, s)
| .upsertNodes type nodes =>
    (nodes.length,
      nodes.foldl (fun s node => s.putNode ⟨type, node.1⟩ node.2) s)
| .upsertEdges route edges =>
    (edges.length,
      edges.foldl (fun s edge => s.putEdge ⟨route, edge.1⟩ edge.2) s)
| .runCommand _ => s.takeOutput

/- The service of a store. -/
def service : Service Store where
  answer := fun call s =>
    match s.failure? call.verb with
    | some e => (.error e, s)
    | none =>
        let (answer, s) := s.perform call
        (.ok answer, s)

end Store

end GraphClient
