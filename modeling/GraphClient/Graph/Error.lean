import GraphClient.Query.Compile
import GraphClient.Remote.Call
/-
  Why an operation on a graph fails.

  Key definitions include:
    * `GraphClient.GraphError`
    * `GraphClient.GraphError.message`

  A reference that a schema refuses is the same failure whether
  an operation or a request made it.
-/

------------------------------------------------------------
-- Causes
------------------------------------------------------------

namespace GraphClient

/- Why an operation on a graph fails. -/
inductive GraphError
| schema (e : SchemaError)
| request (e : RequestError)
| compile (e : CompileError)
| remote (e : RemoteError)
| noSuchNode (node : NodeRef)
| noSuchLink (link : Link)
| schemaChange (graphName output : String)
| queryInstall (query output : String)
deriving DecidableEq

namespace GraphError

/- The failure of a refused request. -/
def ofRequest : RequestError → GraphError
| .schema e => .schema e
| e => .request e

/- What could not be found. -/
def nodeText
    (node : NodeRef) :
    String :=
  "node " ++ Text.named node.id ++
    " of type " ++ Text.named node.type

/- What could not be found. -/
def linkText
    (link : Link) :
    String :=
  "edge " ++ Text.named link.route.edge ++
    " from " ++ Text.named link.ends.source ++
    " to " ++ Text.named link.ends.target

/- The message of a cause. -/
def message : GraphError → String
| .schema e => "Schema error: " ++ e.message
| .request e => "Invalid spec: " ++ e.message
| .compile e => "Compile error: " ++ e.message
| .remote e => "Transport error: " ++ e.message
| .noSuchNode node => "Not found: " ++ nodeText node
| .noSuchLink link => "Not found: " ++ linkText link
| .schemaChange graphName output =>
    "Schema change failed for graph " ++ Text.named graphName ++
      ": " ++ output
| .queryInstall query output =>
    "Installing query " ++ Text.named query ++
      " failed: " ++ output

end GraphError

end GraphClient
