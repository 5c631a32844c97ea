import GraphClient.Schema.Error
import GraphClient.Schema.Keyword
/-
  The types of nodes and edges, and schemas.

  Key definitions include:
    * `GraphClient.AttributeType`
    * `GraphClient.VectorType`
    * `GraphClient.NodeType`
    * `GraphClient.EdgeType`
    * `GraphClient.Schema`

  Node types, edge types and schemas can only be made from
  parts that pass their checks: no attribute is named by a
  reserved word, defaults fit their types, the primary key and
  the discriminators are attributes, vectors have at least one
  dimension, and edges join node types of the schema.  Of
  several faults the first one in declaration order is named.
-/

------------------------------------------------------------
-- Attributes
------------------------------------------------------------

namespace GraphClient

/- The type of an attribute and its default value. -/
structure AttributeType where
  dataType : DataType
  default? : Option Value
deriving DecidableEq

namespace AttributeType

/- An attribute without default. -/
def plain
    (dataType : DataType) :
    AttributeType :=
  ⟨dataType, none⟩

/- Check the default of an attribute. -/
def checkDefault
    (type : AttributeType)
    (name : String) :
    Except SchemaError Unit :=
  match type.default? with
  | none => .ok ()
  | some value =>
      if type.dataType.accepts value then
        .ok ()
      else
        .error (.invalidDefault name type.dataType value)

/- Check a value of an attribute. -/
def checkValue
    (type : AttributeType)
    (name : String)
    (value : Value) :
    Except SchemaError Unit :=
  if type.dataType.accepts value then
    .ok ()
  else
    .error (.invalidValue name type.dataType value)

/- The name under which a default is checked on its own. -/
def defaultName : String :=
  "default_value"

/- An attribute with a default that fits its type. -/
def withDefault
    (dataType : DataType)
    (value : Value) :
    Except SchemaError AttributeType := do
  let type : AttributeType := ⟨dataType, some value⟩
  type.checkDefault defaultName
  return type

/- Check the names and defaults of attributes. -/
def checkAll :
    Entries AttributeType → Except SchemaError Unit
| [] => .ok ()
| (name, type) :: rest => do
    if Keyword.isReserved name then
      throw (.reservedAttribute name)
    type.checkDefault name
    checkAll rest

/- Check a list of values against declared attributes. -/
def checkValues
    (typeName : String)
    (attributes : OrderedMap AttributeType) :
    Entries Value → Except SchemaError Unit
| [] => .ok ()
| (name, value) :: rest => do
    match attributes.get? name with
    | none => throw (.unknownAttribute typeName name)
    | some type =>
        type.checkValue name value
        checkValues typeName attributes rest

end AttributeType

end GraphClient

------------------------------------------------------------
-- Vectors
------------------------------------------------------------

namespace GraphClient

/- How the similarity of two vectors is measured. -/
inductive Metric
| cosine
| l2
| ip
deriving DecidableEq, Repr

namespace Metric

/- All metrics. -/
def all : List Metric :=
  [.cosine, .l2, .ip]

/- The keyword of a metric. -/
def keyword : Metric → String
| .cosine => "COSINE"
| .l2 => "L2"
| .ip => "IP"

/- The metric with a keyword. -/
def ofKeyword?
    (word : String) :
    Option Metric :=
  all.find? (fun metric => metric.keyword = word)

end Metric

/- The type of a vector attribute. -/
structure VectorType where
  dimension : UInt32
  indexType : String
  dataType : String
  metric : Metric
deriving DecidableEq

namespace VectorType

/- The index of a vector attribute that names none. -/
def defaultIndexType : String :=
  "HNSW"

/- The item type of a vector attribute that names none. -/
def defaultDataType : String :=
  "FLOAT"

/- The vector type of a dimension, with defaults elsewhere. -/
def ofDimension
    (dimension : UInt32) :
    VectorType :=
  ⟨dimension, defaultIndexType, defaultDataType, .cosine⟩

/- Check the names and dimensions of vector attributes. -/
def checkAll :
    Entries VectorType → Except SchemaError Unit
| [] => .ok ()
| (name, type) :: rest => do
    if Keyword.isReserved name then
      throw (.reservedVector name)
    if type.dimension = 0 then
      throw (.invalidDimension name)
    checkAll rest

end VectorType

end GraphClient

------------------------------------------------------------
-- Node Types
------------------------------------------------------------

namespace GraphClient

namespace NodeType

/- Check the parts of a node type. -/
def check
    (primaryKey : String)
    (attributes : OrderedMap AttributeType)
    (vectors : OrderedMap VectorType) :
    Except SchemaError Unit := do
  AttributeType.checkAll attributes.entries
  if !attributes.contains primaryKey then
    throw (.missingPrimaryKey primaryKey)
  VectorType.checkAll vectors.entries

end NodeType

/- The type of nodes. -/
structure NodeType where
  primaryKey : String
  attributes : OrderedMap AttributeType
  vectors : OrderedMap VectorType
  accepted : NodeType.check primaryKey attributes vectors = .ok ()
deriving DecidableEq

namespace NodeType

/- The primary key of a type that names none. -/
def defaultPrimaryKey : String :=
  "id"

/- The node type with the given parts, if they pass. -/
def make
    (primaryKey : String)
    (attributes : OrderedMap AttributeType)
    (vectors : OrderedMap VectorType) :
    Except SchemaError NodeType :=
  match hCheck : check primaryKey attributes vectors with
  | .ok () => .ok ⟨primaryKey, attributes, vectors, hCheck⟩
  | .error e => .error e

/- Check the values of a node. -/
def checkBag
    (type : NodeType)
    (typeName : String)
    (bag : Bag) :
    Except SchemaError Unit :=
  AttributeType.checkValues typeName type.attributes bag.entries

end NodeType

end GraphClient

------------------------------------------------------------
-- Edge Types
------------------------------------------------------------

namespace GraphClient

namespace EdgeType

/- Check the parts of an edge type. -/
def check
    (discriminator : List String)
    (attributes : OrderedMap AttributeType) :
    Except SchemaError Unit := do
  AttributeType.checkAll attributes.entries
  match discriminator.find? (fun d => !attributes.contains d) with
  | some missing => throw (.missingDiscriminator missing)
  | none => return ()

end EdgeType

/- The type of edges. -/
structure EdgeType where
  isDirected : Bool
  source : String
  target : String
  discriminator : List String
  attributes : OrderedMap AttributeType
  accepted : EdgeType.check discriminator attributes = .ok ()
deriving DecidableEq

namespace EdgeType

/- The edge type with the given parts, if they pass. -/
def make
    (isDirected : Bool)
    (source target : String)
    (discriminator : List String)
    (attributes : OrderedMap AttributeType) :
    Except SchemaError EdgeType :=
  match hCheck : check discriminator attributes with
  | .ok () =>
      .ok ⟨isDirected, source, target, discriminator,
        attributes, hCheck⟩
  | .error e => .error e

/- Check the values of an edge. -/
def checkBag
    (type : EdgeType)
    (typeName : String)
    (bag : Bag) :
    Except SchemaError Unit :=
  AttributeType.checkValues typeName type.attributes bag.entries

/- The values of the discriminators that a bag has. -/
def discriminatorValues
    (type : EdgeType)
    (bag : Bag) :
    List Value :=
  type.discriminator.filterMap bag.get?

end EdgeType

end GraphClient

------------------------------------------------------------
-- Schemas
------------------------------------------------------------

namespace GraphClient

namespace Schema

/- Check that edges join defined node types. -/
def check
    (nodes : OrderedMap NodeType) :
    Entries EdgeType → Except SchemaError Unit
| [] => .ok ()
| (name, edge) :: rest =>
    if nodes.contains edge.source && nodes.contains edge.target then
      check nodes rest
    else
      .error (.undefinedEndpoint name edge.source edge.target)

end Schema

/- The logical schema of a graph. -/
structure Schema where
  graphName : String
  nodes : OrderedMap NodeType
  edges : OrderedMap EdgeType
  accepted : Schema.check nodes edges.entries = .ok ()
deriving DecidableEq

namespace Schema

/- The schema with the given parts, if they pass. -/
def make
    (graphName : String)
    (nodes : OrderedMap NodeType)
    (edges : OrderedMap EdgeType) :
    Except SchemaError Schema :=
  match hCheck : check nodes edges.entries with
  | .ok () => .ok ⟨graphName, nodes, edges, hCheck⟩
  | .error e => .error e

end Schema

end GraphClient
