import GraphClient.Query.Parameter
import GraphClient.Response.Record
import GraphClient.Schema.Resolution
/-
  What is asked of a remote graph, and what it answers.

  Key definitions include:
    * `GraphClient.Call`
    * `GraphClient.Call.Answer`
    * `GraphClient.RemoteError`
    * `GraphClient.Verb`

  Every call has an answer of its own kind: the response of a
  query, a number, a list of records or a text.  Instead of an
  answer there may be an error.
-/

------------------------------------------------------------
-- Errors
------------------------------------------------------------

namespace GraphClient

/- Why a call has no answer. -/
inductive RemoteError
| request (text : String)
| remote (text : String)
| notFound (text : String)
| timeout (milliseconds : Nat)
| cancelled
| decode (text : String)
| unsupported (operation : String)
deriving DecidableEq, Repr

namespace RemoteError

/- The message of an error. -/
def message : RemoteError → String
| .request text => "Request failed: " ++ text
| .remote text => "Remote error: " ++ text
| .notFound text => "Not found: " ++ text
| .timeout milliseconds =>
    "Request timed out after " ++ toString milliseconds ++ " ms"
| .cancelled => "Request cancelled"
| .decode text => "Failed to decode response: " ++ text
| .unsupported operation =>
    "Operation not supported by transport: " ++ operation

/- Whether what was asked for does not exist. -/
def isNotFound : RemoteError → Bool
| .notFound _ => true
| _ => false

end RemoteError

end GraphClient

------------------------------------------------------------
-- Calls
------------------------------------------------------------

namespace GraphClient

/- The ids of the nodes that an edge joins. -/
structure Ends where
  source : String
  target : String
deriving DecidableEq, Repr

/- All edges of one type between two nodes. -/
structure Link where
  route : Route
  ends : Ends
deriving DecidableEq, Repr

/- What is asked of a remote graph. -/
inductive Call
| runInstalled (name : String) (parameters : Parameters)
| runInterpreted (script : String) (parameters : Parameters)
| upsertNode (node : NodeRef) (bag : Bag)
| upsertEdge (link : Link) (bag : Bag)
| countLink (link : Link)
| getLink (link : Link)
| retrieveNode (node : NodeRef)
| deleteNode (node : NodeRef)
| deleteNodes (type : String)
| countNodes (type : String)
| countEdges (type : String)
| upsertNodes (type : String) (nodes : List (String × Bag))
| upsertEdges (route : Route) (edges : List (Ends × Bag))
| runCommand (text : String)
deriving DecidableEq

end GraphClient

------------------------------------------------------------
-- Answers
------------------------------------------------------------

namespace GraphClient

/- The kinds of answers. -/
inductive AnswerKind
| response
| count
| records
| text
deriving DecidableEq, Repr

/- The answers of a kind. -/
@[reducible]
def AnswerKind.Answer : AnswerKind → Type
| .response => Response
| .count => Nat
| .records => List Json
| .text => String

namespace Call

/- The kind of the answer to a call. -/
@[reducible]
def kind : Call → AnswerKind
| .runInstalled _ _ => .response
| .runInterpreted _ _ => .response
| .upsertNode _ _ => .count
| .upsertEdge _ _ => .count
| .countLink _ => .count
| .getLink _ => .records
| .retrieveNode _ => .records
| .deleteNode _ => .count
| .deleteNodes _ => .count
| .countNodes _ => .count
| .countEdges _ => .count
| .upsertNodes _ _ => .count
| .upsertEdges _ _ => .count
| .runCommand _ => .text

/- The answer to a call. -/
abbrev Answer
    (call : Call) :
    Type :=
  call.kind.Answer

/- The answer to a call, or the reason why there is none. -/
abbrev Outcome
    (call : Call) :
    Type :=
  Except RemoteError call.Answer

end Call

end GraphClient

------------------------------------------------------------
-- Verbs
------------------------------------------------------------

namespace GraphClient

/- What can be asked, without saying of what. -/
inductive Verb
| runInstalled
| runInterpreted
| upsertNode
| upsertEdge
| countLink
| getLink
| retrieveNode
| deleteNode
| deleteNodes
| countNodes
| countEdges
| upsertNodes
| upsertEdges
| runCommand
deriving DecidableEq, Repr

namespace Verb

/- All verbs. -/
def all : List Verb :=
  [.runInstalled, .runInterpreted, .upsertNode, .upsertEdge,
    .countLink, .getLink, .retrieveNode, .deleteNode,
    .deleteNodes, .countNodes, .countEdges, .upsertNodes,
    .upsertEdges, .runCommand]

/- The name of a verb. -/
def name : Verb → String
| .runInstalled => "run_installed_query"
| .runInterpreted => "run_interpreted_query"
| .upsertNode => "upsert_node"
| .upsertEdge => "upsert_edge"
| .countLink => "get_edge_count"
| .getLink => "get_edges"
| .retrieveNode => "retrieve_node"
| .deleteNode => "delete_node"
| .deleteNodes => "delete_nodes"
| .countNodes => "count_nodes"
| .countEdges => "count_edges"
| .upsertNodes => "upsert_nodes"
| .upsertEdges => "upsert_edges"
| .runCommand => "run_gsql"

/- The verb with a name. -/
def ofName?
    (name : String) :
    Option Verb :=
  all.find? (fun verb => verb.name = name)

/- Whether every remote graph has to know a verb. -/
def isBasic : Verb → Bool
| .runInstalled => true
| .runInterpreted => true
| .upsertNode => true
| .upsertEdge => true
| .countLink => true
| .getLink => true
| _ => false

end Verb

/- The verb of a call. -/
def Call.verb : Call → Verb
| .runInstalled _ _ => .runInstalled
| .runInterpreted _ _ => .runInterpreted
| .upsertNode _ _ => .upsertNode
| .upsertEdge _ _ => .upsertEdge
| .countLink _ => .countLink
| .getLink _ => .getLink
| .retrieveNode _ => .retrieveNode
| .deleteNode _ => .deleteNode
| .deleteNodes _ => .deleteNodes
| .countNodes _ => .countNodes
| .countEdges _ => .countEdges
| .upsertNodes _ _ => .upsertNodes
| .upsertEdges _ _ => .upsertEdges
| .runCommand _ => .runCommand

end GraphClient
