import GraphClient.Schema.Types
import GraphClient.Text.Join
/-
  The commands that create and remove a graph.

  Key definitions include:
    * `GraphClient.Column`
    * `GraphClient.Statement`
    * `GraphClient.Schema.statements`
    * `GraphClient.Schema.creationScript`
    * `GraphClient.Schema.removalScript`

  A schema is defined by one statement for each node type, then
  one for each edge type, then one for each vector attribute.
  The statements run inside a job that is dropped afterwards.
-/

------------------------------------------------------------
-- Columns
------------------------------------------------------------

namespace GraphClient

/- A column of a type that is being defined. -/
inductive Column
| primaryKey (name : String) (type : DataType)
| source (nodeType : String)
| target (nodeType : String)
| discriminator (keys : List (String × DataType))
| plain (name : String) (type : AttributeType)
deriving DecidableEq

namespace Column

/- A name with its type. -/
def typed
    (name : String)
    (type : DataType) :
    String :=
  name ++ " " ++ type.keyword

/- The text of a column. -/
def text : Column → String
| .primaryKey name type => "PRIMARY_ID " ++ typed name type
| .source nodeType => "FROM " ++ nodeType
| .target nodeType => "TO " ++ nodeType
| .discriminator keys =>
    "DISCRIMINATOR(" ++
      Text.join ", " (keys.map (fun key => typed key.1 key.2)) ++ ")"
| .plain name type =>
    match type.default? with
    | none => typed name type.dataType
    | some value =>
        typed name type.dataType ++ " DEFAULT " ++ value.literal

end Column

/- The columns of a node type: the primary key comes first. -/
def NodeType.columns
    (type : NodeType) :
    List Column :=
  let isKey := fun (entry : String × AttributeType) =>
    entry.1 = type.primaryKey
  (type.attributes.entries.filter isKey).map
      (fun entry => .primaryKey entry.1 entry.2.dataType) ++
    (type.attributes.entries.filter (fun entry => !isKey entry)).map
      (fun entry => .plain entry.1 entry.2)

/- The discriminators of an edge type with their types. -/
def EdgeType.discriminatorKeys
    (type : EdgeType) :
    List (String × DataType) :=
  type.discriminator.filterMap (fun name =>
    (type.attributes.get? name).map
      (fun found => (name, found.dataType)))

/- The columns of an edge type. -/
def EdgeType.columns
    (type : EdgeType) :
    List Column :=
  let keys : List Column :=
    if type.discriminator.isEmpty then
      []
    else
      [.discriminator type.discriminatorKeys]
  let rest := type.attributes.entries.filter
    (fun entry => !type.discriminator.contains entry.1)
  .source type.source :: .target type.target ::
    (keys ++ rest.map (fun entry => .plain entry.1 entry.2))

end GraphClient

------------------------------------------------------------
-- Statements
------------------------------------------------------------

namespace GraphClient

/- A statement that defines a type or a vector attribute. -/
inductive Statement
| addVertex (name : String) (columns : List Column)
| addEdge (name : String) (isDirected : Bool) (columns : List Column)
| addVector (vertex name : String) (type : VectorType)
deriving DecidableEq

namespace Statement

/- Columns between parentheses, after the name of their type. -/
def withColumns
    (name : String)
    (columns : List Column) :
    String :=
  name ++ "(" ++ Text.join ", " (columns.map Column.text) ++ ")"

/- The type of the edges that lead back. -/
def reverseName
    (edge : String) :
    String :=
  "reverse_" ++ edge

/- The text of a statement. -/
def text : Statement → String
| .addVertex name columns =>
    "ADD VERTEX " ++ withColumns name columns ++
      " WITH PRIMARY_ID_AS_ATTRIBUTE=\"true\";"
| .addEdge name true columns =>
    "ADD DIRECTED EDGE " ++ withColumns name columns ++
      " WITH REVERSE_EDGE=\"" ++ reverseName name ++ "\";"
| .addEdge name false columns =>
    "ADD UNDIRECTED EDGE " ++ withColumns name columns ++ ";"
| .addVector vertex name type =>
    "ALTER VERTEX " ++ vertex ++ " ADD VECTOR ATTRIBUTE " ++ name ++
      "(DIMENSION=" ++ toString type.dimension.toNat ++
      ", METRIC=\"" ++ type.metric.keyword ++ "\");"

end Statement

namespace Schema

/- The statements that define the types of a schema. -/
def statements
    (schema : Schema) :
    List Statement :=
  schema.nodes.entries.map
      (fun entry => .addVertex entry.1 entry.2.columns) ++
    schema.edges.entries.map
      (fun entry =>
        .addEdge entry.1 entry.2.isDirected entry.2.columns) ++
    schema.nodes.entries.flatMap (fun entry =>
      entry.2.vectors.entries.map
        (fun vector => .addVector entry.1 vector.1 vector.2))

end Schema

end GraphClient

------------------------------------------------------------
-- Scripts
------------------------------------------------------------

namespace GraphClient

namespace Schema

/- The job that defines the types of a graph. -/
def jobName
    (graphName : String) :
    String :=
  "schema_change_job_for_graph_" ++ graphName

/- The script that creates a graph with all of its types. -/
def creationScript
    (schema : Schema) :
    String :=
  let graph := schema.graphName
  let job := jobName graph
  Text.lines
    (["CREATE GRAPH " ++ graph ++ "()",
      "CREATE SCHEMA_CHANGE JOB " ++ job ++
        " FOR GRAPH " ++ graph ++ " \x7b"] ++
    schema.statements.map (fun statement => "  " ++ statement.text) ++
    ["\x7d",
      "RUN SCHEMA_CHANGE JOB " ++ job,
      "DROP JOB " ++ job])

/- The script that removes a graph with all of its types. -/
def removalScript
    (graphName : String) :
    String :=
  "DROP GRAPH " ++ graphName ++ " CASCADE"

end Schema

end GraphClient
