import GraphClient.Request.Pattern
import GraphClient.Request.Restriction
import GraphClient.Schema.Resolution
/-
  Requests for the neighbors of nodes.

  Key definitions include:
    * `GraphClient.NeighborRequest`
    * `GraphClient.NeighborRequest.Form`
    * `GraphClient.NeighborRequest.Form.build`
    * `GraphClient.NeighborRequest.Form.buildWith`

  A request leads from at least one start node, over one edge,
  to its neighbors.  Edge types are taken as they are given, so
  that they may name reverse edges or carry a direction.
-/

------------------------------------------------------------
-- Requests
------------------------------------------------------------

namespace GraphClient

/- A request for the neighbors of nodes. -/
structure NeighborRequest where
  startNodes : List String
  startType : String
  pattern : Pattern
  restriction : Restriction
deriving DecidableEq, Repr

end GraphClient

------------------------------------------------------------
-- Forms
------------------------------------------------------------

namespace GraphClient

namespace NeighborRequest

/- A request that is being written. -/
structure Form where
  startNodes : List String
  startType? : Option String
  pattern : Pattern
  restriction : Restriction
deriving DecidableEq, Repr

/- One part of a request for neighbors. -/
inductive Clause
| startType (name : String)
| pattern (clause : Pattern.Clause)
| restrict (clause : Restriction.Clause)
deriving DecidableEq, Repr

namespace Form

/- The form for start nodes without clauses. -/
def blank
    (startNodes : List String) :
    Form :=
  ⟨startNodes, none, .any, .none⟩

/- Add a clause. -/
def add
    (form : Form) :
    Clause → Form
| .startType name => { form with startType? := some name }
| .pattern clause =>
    { form with pattern := form.pattern.add clause }
| .restrict clause =>
    { form with restriction := form.restriction.add clause }

/- The form of start nodes and a list of clauses. -/
def ofClauses
    (startNodes : List String)
    (clauses : List Clause) :
    Form :=
  clauses.foldl add (blank startNodes)

/- The request of a form with a known start type. -/
def finish
    (form : Form)
    (startType : String) :
    Except RequestError NeighborRequest := do
  if form.startNodes.isEmpty then
    throw .noStartNodes
  form.pattern.check
  let restriction ← form.restriction.check
  return ⟨form.startNodes, startType, form.pattern, restriction⟩

/- The request of a form. -/
def build
    (form : Form) :
    Except RequestError NeighborRequest :=
  match TypeRef.name? form.startType? with
  | some name => form.finish name
  | none => .error .missingNodeType

/- The start type of a form, resolved with its targets. -/
def resolveTypes
    (form : Form)
    (schema : Schema) :
    Except SchemaError String := do
  let startType ← schema.resolveNode form.startType?
  schema.requireNodes form.pattern.targetTypes
  return startType

/- The request of a form for the graphs of a schema. -/
def buildWith
    (schema : Schema)
    (form : Form) :
    Except RequestError NeighborRequest :=
  match form.resolveTypes schema with
  | .ok startType => form.finish startType
  | .error e => .error (.schema e)

end Form

end NeighborRequest

end GraphClient
