import GraphClient.Config
import GraphClient.Graph.Error
import GraphClient.Remote.Conversation
/-
  Graphs and the operations on them.

  Key definitions include:
    * `GraphClient.Graph`
    * `GraphClient.Operation`
    * `GraphClient.Operation.require`

  An operation is a conversation that ends with a result or an
  error.  What can be checked is checked before the first call.
-/

------------------------------------------------------------
-- Graphs
------------------------------------------------------------

namespace GraphClient

/- A remote graph, as its client knows it. -/
structure Graph where
  schema : Schema
  options : Options
deriving DecidableEq

namespace Graph

/- The graph of a schema, with standard options. -/
def ofSchema
    (schema : Schema) :
    Graph :=
  ⟨schema, .standard⟩

/- The graph of a configuration. -/
def ofConfig
    (config : Config) :
    Graph :=
  ⟨config.schema, config.options⟩

/- The name of a graph. -/
def name
    (g : Graph) :
    String :=
  g.schema.graphName

end Graph

end GraphClient

------------------------------------------------------------
-- Operations
------------------------------------------------------------

namespace GraphClient

/- A conversation that may fail. -/
abbrev Operation (α : Type) : Type :=
  Conversation (Except GraphError α)

namespace Operation

variable {α β : Type}

/- End with a result. -/
def succeed
    (a : α) :
    Operation α :=
  .done (.ok a)

/- End with an error. -/
def fail
    (e : GraphError) :
    Operation α :=
  .done (.error e)

/- Go on with what a check gives, or end with its error. -/
def require
    {ε : Type}
    (cause : ε → GraphError)
    (check : Except ε β)
    (next : β → Operation α) :
    Operation α :=
  match check with
  | .ok b => next b
  | .error e => fail (cause e)

/- End with the result of a conversation. -/
def always
    (c : Conversation α) :
    Operation α :=
  c.map .ok

/- Go on with the result of an operation, if it has one. -/
def bind
    (first : Operation α)
    (next : α → Operation β) :
    Operation β :=
  first.andThen (fun
    | .ok a => next a
    | .error e => fail e)

end Operation

end GraphClient

------------------------------------------------------------
-- References
------------------------------------------------------------

namespace GraphClient

namespace Graph

variable {α : Type}

/- Resolve a reference to a node type, and go on with its name. -/
def withNodeType
    (g : Graph)
    (ref : TypeRef)
    (next : String → Operation α) :
    Operation α :=
  Operation.require .schema (g.schema.resolveNode ref) next

/- Resolve references to the types of an edge, and go on. -/
def withRoute
    (g : Graph)
    (ref : RouteRef)
    (next : Route → Operation α) :
    Operation α :=
  Operation.require .schema (g.schema.resolveRoute ref) next

end Graph

end GraphClient
