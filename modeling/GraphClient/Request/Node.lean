import GraphClient.Request.Alias
import GraphClient.Request.Restriction
import GraphClient.Schema.Resolution
/-
  Requests for nodes.

  Key definitions include:
    * `GraphClient.NodeRequest`
    * `GraphClient.NodeRequest.Form`
    * `GraphClient.NodeRequest.Form.build`
    * `GraphClient.NodeRequest.Form.buildWith`

  A form collects clauses in any order.  Asking for all types
  wins over asking for one.  With a schema, the type may be
  left out if the schema has exactly one.
-/

------------------------------------------------------------
-- Requests
------------------------------------------------------------

namespace GraphClient

/- The nodes that a request starts from. -/
inductive NodeTarget
| type (name : String)
| all
deriving DecidableEq, Repr

/- The type, if a single one is asked for. -/
def NodeTarget.type? : NodeTarget → Option String
| .type name => some name
| .all => none

/- A request for nodes. -/
structure NodeRequest where
  target : NodeTarget
  nodeAlias : String
  restriction : Restriction
deriving DecidableEq, Repr

end GraphClient

------------------------------------------------------------
-- Forms
------------------------------------------------------------

namespace GraphClient

namespace NodeRequest

/- A request that is being written. -/
structure Form where
  type? : Option String
  wantsAll : Bool
  nodeAlias : String
  restriction : Restriction
deriving DecidableEq, Repr

/- One part of a request for nodes. -/
inductive Clause
| type (name : String)
| allTypes
| nodeAlias (name : String)
| restrict (clause : Restriction.Clause)
deriving DecidableEq, Repr

namespace Form

/- The form without clauses. -/
def blank : Form :=
  ⟨none, false, Alias.start, .none⟩

/- Add a clause. -/
def add
    (form : Form) :
    Clause → Form
| .type name => { form with type? := some name }
| .allTypes => { form with wantsAll := true }
| .nodeAlias name => { form with nodeAlias := name }
| .restrict clause =>
    { form with restriction := form.restriction.add clause }

/- The form of a list of clauses. -/
def ofClauses
    (clauses : List Clause) :
    Form :=
  clauses.foldl add blank

/- The type that a form gives; an empty name gives none. -/
def namedTarget
    (form : Form) :
    Except RequestError NodeTarget :=
  if form.wantsAll then
    .ok .all
  else
    match TypeRef.name? form.type? with
    | some name => .ok (.type name)
    | none => .error .missingNodeType

/- The type that a form gives, resolved in a schema. -/
def resolvedTarget
    (form : Form)
    (schema : Schema) :
    Except RequestError NodeTarget :=
  if form.wantsAll then
    .ok .all
  else
    match schema.resolveNode form.type? with
    | .ok name => .ok (.type name)
    | .error e => .error (.schema e)

/- The request of a form with a known target. -/
def finish
    (form : Form)
    (target : NodeTarget) :
    Except RequestError NodeRequest := do
  Alias.check form.nodeAlias
  let restriction ← form.restriction.check
  return ⟨target, form.nodeAlias, restriction⟩

/- The request of a form. -/
def build
    (form : Form) :
    Except RequestError NodeRequest := do
  form.finish (← form.namedTarget)

/- The request of a form for the graphs of a schema. -/
def buildWith
    (schema : Schema)
    (form : Form) :
    Except RequestError NodeRequest := do
  form.finish (← form.resolvedTarget schema)

end Form

end NodeRequest

end GraphClient
