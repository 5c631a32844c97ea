import GraphClient.Attribute.Encoding
import GraphClient.Json.Writer
import GraphClient.Schema.Types
/-
  Schemas as JSON.

  Key definitions include:
    * `GraphClient.Schema.toJson`
    * `GraphClient.Schema.text`
    * `GraphClient.Schema.reader`

  What is written spells everything out.  What is read may use
  shorthands: the name of a type for an attribute without
  default, a number for a vector of that dimension, one name
  for a single discriminator.  Absent parts have defaults, and
  every type is checked as soon as it has been read.
-/

------------------------------------------------------------
-- Writing
------------------------------------------------------------

namespace GraphClient

/- The JSON object of a map. -/
def OrderedMap.toJson
    {α : Type}
    (m : OrderedMap α)
    (item : α → Json) :
    Json :=
  .object (m.entries.map (fun entry => (entry.1, item entry.2)))

/- A field that is written only when there is something in it. -/
def Json.fieldUnless
    (isAbsent : Bool)
    (key : String)
    (value : Json) :
    Entries Json :=
  if isAbsent then [] else [(key, value)]

/- The JSON of an attribute. -/
def AttributeType.toJson
    (type : AttributeType) :
    Json :=
  .object
    (("data_type", .string type.dataType.keyword) ::
      (match type.default? with
      | none => []
      | some value => [("default_value", value.toJson)]))

/- The JSON of a vector attribute. -/
def VectorType.toJson
    (type : VectorType) :
    Json :=
  .object
    [("dimension", .int type.dimension.toNat),
      ("index_type", .string type.indexType),
      ("data_type", .string type.dataType),
      ("metric", .string type.metric.keyword)]

/- The JSON of a node type. -/
def NodeType.toJson
    (type : NodeType) :
    Json :=
  .object
    (("primary_key", .string type.primaryKey) ::
      ("attributes", type.attributes.toJson AttributeType.toJson) ::
      Json.fieldUnless type.vectors.isEmpty "vector_attributes"
        (type.vectors.toJson VectorType.toJson))

/- The JSON of an edge type. -/
def EdgeType.toJson
    (type : EdgeType) :
    Json :=
  .object
    (("is_directed_edge", .bool type.isDirected) ::
      ("from_node_type", .string type.source) ::
      ("to_node_type", .string type.target) ::
      (Json.fieldUnless type.discriminator.isEmpty "discriminator"
        (Json.strings type.discriminator) ++
      [("attributes", type.attributes.toJson AttributeType.toJson)]))

namespace Schema

/- The JSON of a schema. -/
def toJson
    (schema : Schema) :
    Json :=
  .object
    [("graph_name", .string schema.graphName),
      ("nodes", schema.nodes.toJson NodeType.toJson),
      ("edges", schema.edges.toJson EdgeType.toJson)]

/- The text of a schema. -/
def text
    (schema : Schema) :
    String :=
  schema.toJson.pretty

end Schema

end GraphClient

------------------------------------------------------------
-- Reading Attributes
------------------------------------------------------------

namespace GraphClient

open Json (Draft Reader RecordField RecordForm)

/- The type that a draft names. -/
def DataType.ofDraft?
    (d : Draft) :
    Option DataType :=
  (Reader.word? d).bind DataType.ofKeyword?

/- The metric that a draft names. -/
def Metric.ofDraft?
    (d : Draft) :
    Option Metric :=
  (Reader.word? d).bind Metric.ofKeyword?

/- The default that a draft spells; null spells none. -/
def AttributeType.defaultOfDraft? : Draft → Option (Option Value)
| .null => some none
| d => (Value.ofDraft? d).map some

/- The attribute that the members of a draft spell. -/
def AttributeType.ofMembers?
    (members : List (Option String × Draft)) :
    Option AttributeType := do
  let dataType ←
    Reader.member members "data_type" DataType.ofDraft?
  let value ←
    Reader.optional? members "default_value" defaultOfDraft?
  return ⟨dataType, value.bind id⟩

/- The attribute that a draft spells, in short or in full. -/
def AttributeType.ofDraft?
    (d : Draft) :
    Option AttributeType :=
  match DataType.ofDraft? d with
  | some dataType => some (.plain dataType)
  | none =>
      match d with
      | .object members _ => AttributeType.ofMembers? members
      | _ => none

/- Read an attribute. -/
def AttributeType.reader : Reader AttributeType :=
  Reader.variant "AttributeSchemaDef" AttributeType.ofDraft?

end GraphClient

------------------------------------------------------------
-- Reading Vectors
------------------------------------------------------------

namespace GraphClient

open Json (Draft Reader)

namespace VectorType

/- The dimension that a draft spells. -/
def dimensionOfDraft? : Draft → Option UInt32
| .number n =>
    match n.value? with
    | some (.int i) =>
        if 0 ≤ i ∧ i.toNat < Nat.pow 2 32 then
          some (UInt32.ofNat i.toNat)
        else
          none
    | _ => none
| _ => none

/- The text that a draft spells. -/
def stringOfDraft? : Draft → Option String
| .string s => s
| _ => none

/- The vector that the members of a draft spell. -/
def ofMembers?
    (members : List (Option String × Draft)) :
    Option VectorType := do
  let dimension ←
    Reader.member members "dimension" dimensionOfDraft?
  let indexType ←
    Reader.optional? members "index_type" stringOfDraft?
  let dataType ←
    Reader.optional? members "data_type" stringOfDraft?
  let metric ←
    Reader.optional? members "metric" Metric.ofDraft?
  return ⟨dimension, indexType.getD defaultIndexType,
    dataType.getD defaultDataType, metric.getD .cosine⟩

/- The vector that a draft spells, in short or in full. -/
def ofDraft?
    (d : Draft) :
    Option VectorType :=
  match dimensionOfDraft? d with
  | some dimension => some (ofDimension dimension)
  | none =>
      match d with
      | .object members _ => ofMembers? members
      | _ => none

/- Why a vector without dimension is refused. -/
def noDimension : String :=
  "vector attribute dimension must be at least 1"

/- Read a vector; it needs at least one dimension. -/
def reader : Reader VectorType :=
  Reader.checked
    (Reader.variant "VectorAttributeSchemaDef" ofDraft?)
    (fun type =>
      if type.dimension = 0 then
        .error (.refused noDimension)
      else
        .ok type)

end VectorType

end GraphClient

------------------------------------------------------------
-- Reading Node Types
------------------------------------------------------------

namespace GraphClient

open Json (Draft Reader RecordField RecordForm)

/- Refuse what does not pass its checks. -/
def SchemaError.refuse
    {α : Type}
    (result : Except SchemaError α) :
    Except Json.Misfit α :=
  result.mapError (fun e => .refused e.message)

namespace NodeType

/- The parts of a node type that have been read. -/
structure Slots where
  primaryKey : Option String
  attributes : Option (OrderedMap AttributeType)
  vectors : Option (OrderedMap VectorType)

/- The fields of a node type. -/
def form : RecordForm Slots where
  name := "NodeSchemaDef"
  fields :=
    [.of "primary_key" Slots.primaryKey
        (fun slots key => { slots with primaryKey := some key })
        Reader.string,
      .of "attributes" Slots.attributes
        (fun slots m => { slots with attributes := some m })
        (Reader.map AttributeType.reader),
      .of "vector_attributes" Slots.vectors
        (fun slots m => { slots with vectors := some m })
        (Reader.map VectorType.reader)]

/- Read a node type. -/
def reader : Reader NodeType :=
  Reader.checked
    (Reader.record form ⟨none, none, none⟩ (fun _ slots => .ok slots))
    (fun slots =>
      SchemaError.refuse
        (make (slots.primaryKey.getD defaultPrimaryKey)
          (slots.attributes.getD .empty)
          (slots.vectors.getD .empty)))

end NodeType

end GraphClient

------------------------------------------------------------
-- Reading Edge Types
------------------------------------------------------------

namespace GraphClient

open Json (Draft Reader RecordField RecordForm)

namespace EdgeType

/- The discriminators that a draft spells: one name or a list. -/
def discriminatorOfDraft? : Draft → Option (List String)
| .string s => s.map (fun name => [name])
| .array items _ => Reader.texts? items
| _ => none

/- Read the discriminators; null is none. -/
def discriminatorReader : Reader (List String) :=
  fun budget d =>
    match d with
    | .null => .ok []
    | d =>
        Reader.variant "DiscriminatorDef" discriminatorOfDraft?
          budget d

/- The parts of an edge type that have been read. -/
structure Slots where
  isDirected : Option Bool
  source : Option String
  target : Option String
  discriminator : Option (List String)
  attributes : Option (OrderedMap AttributeType)

/- The fields of an edge type. -/
def form : RecordForm Slots where
  name := "EdgeSchemaDef"
  fields :=
    [.of "is_directed_edge" Slots.isDirected
        (fun slots b => { slots with isDirected := some b })
        Reader.bool,
      .of "from_node_type" Slots.source
        (fun slots name => { slots with source := some name })
        Reader.string,
      .of "to_node_type" Slots.target
        (fun slots name => { slots with target := some name })
        Reader.string,
      .of "discriminator" Slots.discriminator
        (fun slots names => { slots with discriminator := some names })
        discriminatorReader,
      .of "attributes" Slots.attributes
        (fun slots m => { slots with attributes := some m })
        (Reader.map AttributeType.reader)]

/- An edge type whose parts are all there, before its checks. -/
structure Parts where
  isDirected : Bool
  source : String
  target : String
  discriminator : List String
  attributes : OrderedMap AttributeType

/- The parts of an edge type, with defaults for absent ones. -/
def Slots.parts
    (absent : String → Json.Misfit)
    (slots : Slots) :
    Except Json.Misfit Parts := do
  let isDirected ←
    Reader.required absent "is_directed_edge" slots.isDirected
  let source ←
    Reader.required absent "from_node_type" slots.source
  let target ←
    Reader.required absent "to_node_type" slots.target
  return ⟨isDirected, source, target,
    slots.discriminator.getD [], slots.attributes.getD .empty⟩

/- Read an edge type. -/
def reader : Reader EdgeType :=
  Reader.checked
    (Reader.record form ⟨none, none, none, none, none⟩ Slots.parts)
    (fun parts =>
      SchemaError.refuse
        (make parts.isDirected parts.source parts.target
          parts.discriminator parts.attributes))

end EdgeType

end GraphClient

------------------------------------------------------------
-- Reading Schemas
------------------------------------------------------------

namespace GraphClient

open Json (Draft Reader RecordField RecordForm)

namespace Schema

/- The parts of a schema that have been read. -/
structure Slots where
  graphName : Option String
  nodes : Option (OrderedMap NodeType)
  edges : Option (OrderedMap EdgeType)

/- The fields of a schema. -/
def form : RecordForm Slots where
  name := "GraphSchemaDef"
  fields :=
    [.of "graph_name" Slots.graphName
        (fun slots name => { slots with graphName := some name })
        Reader.string,
      .of "nodes" Slots.nodes
        (fun slots m => { slots with nodes := some m })
        (Reader.map NodeType.reader),
      .of "edges" Slots.edges
        (fun slots m => { slots with edges := some m })
        (Reader.map EdgeType.reader)]

/- A schema whose parts are all there, before its check. -/
structure Parts where
  graphName : String
  nodes : OrderedMap NodeType
  edges : OrderedMap EdgeType

/- The parts of a schema, with defaults for absent ones. -/
def Slots.parts
    (absent : String → Json.Misfit)
    (slots : Slots) :
    Except Json.Misfit Parts := do
  let graphName ←
    Reader.required absent "graph_name" slots.graphName
  return ⟨graphName, slots.nodes.getD .empty, slots.edges.getD .empty⟩

/- Read a schema. -/
def reader : Reader Schema :=
  Reader.checked
    (Reader.record form ⟨none, none, none⟩ Slots.parts)
    (fun parts =>
      SchemaError.refuse
        (make parts.graphName parts.nodes parts.edges))

/- The schema of a text. -/
def parse
    (text : String) :
    Except Json.Fault Schema :=
  Reader.run reader text

end Schema

end GraphClient
