import GraphClient.Schema.Types
/-
  References to the types of a schema.

  Key definitions include:
    * `GraphClient.Schema.node`
    * `GraphClient.Schema.edge`
    * `GraphClient.Schema.resolveNode`
    * `GraphClient.Schema.resolveEdge`
    * `GraphClient.Schema.resolveRoute`

  A type may be left out, by giving no name or an empty one,
  when the schema has exactly one type of that kind.  The ends
  of an edge may be left out always: they are then those of
  the definition of the edge.
-/

------------------------------------------------------------
-- Look-Up
------------------------------------------------------------

namespace GraphClient

namespace Schema

/- The node type with a name. -/
def node
    (schema : Schema)
    (name : String) :
    Except SchemaError NodeType :=
  match schema.nodes.get? name with
  | some type => .ok type
  | none => .error (.unknownType .node name)

/- The edge type with a name. -/
def edge
    (schema : Schema)
    (name : String) :
    Except SchemaError EdgeType :=
  match schema.edges.get? name with
  | some type => .ok type
  | none => .error (.unknownType .edge name)

/- Require that all names are node types. -/
def requireNodes
    (schema : Schema) :
    List String → Except SchemaError Unit
| [] => .ok ()
| name :: rest => do
    let _ ← schema.node name
    requireNodes schema rest

/- Require that all names are edge types. -/
def requireEdges
    (schema : Schema) :
    List String → Except SchemaError Unit
| [] => .ok ()
| name :: rest => do
    let _ ← schema.edge name
    requireEdges schema rest

/- The primary key of a node type. -/
def primaryKey?
    (schema : Schema)
    (name : String) :
    Option String :=
  (schema.nodes.get? name).map NodeType.primaryKey

end Schema

end GraphClient

------------------------------------------------------------
-- References
------------------------------------------------------------

namespace GraphClient

/- A reference to a type; an empty name refers to none. -/
abbrev TypeRef : Type :=
  Option String

/- The name that a reference gives. -/
def TypeRef.name?
    (ref : TypeRef) :
    Option String :=
  ref.filter (fun name => !name.isEmpty)

namespace Schema

/- Resolve a reference among the defined names. -/
def resolve
    (element : Element)
    (defined : List String)
    (ref : TypeRef) :
    Except SchemaError String :=
  match ref.name? with
  | some name =>
      if name ∈ defined then
        .ok name
      else
        .error (.unknownType element name)
  | none =>
      match defined with
      | [] => .error (.ambiguousType element false)
      | [name] => .ok name
      | _ => .error (.ambiguousType element true)

/- Resolve a reference to a node type. -/
def resolveNode
    (schema : Schema)
    (ref : TypeRef) :
    Except SchemaError String :=
  resolve .node schema.nodes.keys ref

/- Resolve a reference to an edge type. -/
def resolveEdge
    (schema : Schema)
    (ref : TypeRef) :
    Except SchemaError String :=
  resolve .edge schema.edges.keys ref

end Schema

end GraphClient

------------------------------------------------------------
-- Routes
------------------------------------------------------------

namespace GraphClient

/- An edge type with the node types that it leads from and to. -/
structure Route where
  source : String
  edge : String
  target : String
deriving DecidableEq, Repr

/- References to an edge type and the types of its ends. -/
structure RouteRef where
  source : TypeRef
  edge : TypeRef
  target : TypeRef
deriving DecidableEq, Repr

namespace Schema

/- Resolve the end of an edge; by default it is the defined one. -/
def resolveEnd
    (schema : Schema)
    (ref : TypeRef)
    (defined : String) :
    Except SchemaError String :=
  match ref.name? with
  | none => .ok defined
  | some name => do
      let _ ← schema.node name
      return name

/- Resolve an edge type, its source and its target, in that order. -/
def resolveRoute
    (schema : Schema)
    (ref : RouteRef) :
    Except SchemaError Route := do
  let name ← schema.resolveEdge ref.edge
  let type ← schema.edge name
  let source ← schema.resolveEnd ref.source type.source
  let target ← schema.resolveEnd ref.target type.target
  return ⟨source, name, target⟩

end Schema

end GraphClient
