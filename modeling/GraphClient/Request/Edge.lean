import GraphClient.Request.Pattern
import GraphClient.Request.Restriction
import GraphClient.Schema.Resolution
/-
  Requests for edges.

  Key definitions include:
    * `GraphClient.EdgeRequest`
    * `GraphClient.EdgeRequest.Form`
    * `GraphClient.EdgeRequest.Form.build`
    * `GraphClient.EdgeRequest.Form.buildWith`

  A request matches one edge between nodes of the given types.
  With a schema, every type that it names has to be defined:
  the sources are checked first, the edges last.
-/

------------------------------------------------------------
-- Requests
------------------------------------------------------------

namespace GraphClient

/- A request for edges. -/
structure EdgeRequest where
  sourceTypes : List String
  pattern : Pattern
  restriction : Restriction
deriving DecidableEq, Repr

end GraphClient

------------------------------------------------------------
-- Forms
------------------------------------------------------------

namespace GraphClient

namespace EdgeRequest

/- A request that is being written. -/
structure Form where
  sourceTypes : List String
  pattern : Pattern
  restriction : Restriction
deriving DecidableEq, Repr

/- One part of a request for edges. -/
inductive Clause
| sourceTypes (names : List String)
| pattern (clause : Pattern.Clause)
| restrict (clause : Restriction.Clause)
deriving DecidableEq, Repr

namespace Form

/- The form without clauses. -/
def blank : Form :=
  ⟨[], .any, .none⟩

/- Add a clause. -/
def add
    (form : Form) :
    Clause → Form
| .sourceTypes names =>
    { form with sourceTypes := form.sourceTypes ++ names }
| .pattern clause =>
    { form with pattern := form.pattern.add clause }
| .restrict clause =>
    { form with restriction := form.restriction.add clause }

/- The form of a list of clauses. -/
def ofClauses
    (clauses : List Clause) :
    Form :=
  clauses.foldl add blank

/- The request of a form. -/
def build
    (form : Form) :
    Except RequestError EdgeRequest := do
  form.pattern.check
  let restriction ← form.restriction.check
  return ⟨form.sourceTypes, form.pattern, restriction⟩

/- Check that every type that a form names is defined. -/
def checkTypes
    (form : Form)
    (schema : Schema) :
    Except SchemaError Unit := do
  schema.requireNodes
    (form.sourceTypes ++ form.pattern.targetTypes)
  schema.requireEdges form.pattern.edgeTypes

/- The request of a form for the graphs of a schema. -/
def buildWith
    (schema : Schema)
    (form : Form) :
    Except RequestError EdgeRequest :=
  match form.checkTypes schema with
  | .ok () => form.build
  | .error e => .error (.schema e)

end Form

end EdgeRequest

end GraphClient
