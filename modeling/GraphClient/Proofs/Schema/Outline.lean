import GraphClient.Proofs.Schema.Keywords
import GraphClient.Proofs.Schema.Rereading
import GraphClient.Proofs.Traversal
/-
  Definitions of graphs, and which of them make a schema.

  Key definitions include:
    * `GraphClient.SchemaOutline`
    * `GraphClient.SchemaOutline.build`
    * `GraphClient.SchemaOutline.WellFormed`
    * `GraphClient.Schema.outline`

  Key theorems include:
    * `GraphClient.SchemaOutline.build_eq_ok_iff`
    * `GraphClient.SchemaOutline.exists_build_iff`
    * `GraphClient.Schema.wellFormed_outline`

  An outline says what a schema is to be, without any check.  A
  schema is built from it type by type, and building succeeds
  for exactly the well-formed outlines.
-/

------------------------------------------------------------
-- Outlines
------------------------------------------------------------

namespace GraphClient

/- What a node type is to be. -/
structure NodeOutline where
  primaryKey : String
  attributes : OrderedMap AttributeType
  vectors : OrderedMap VectorType
deriving DecidableEq

/- What an edge type is to be. -/
structure EdgeOutline where
  isDirected : Bool
  source : String
  target : String
  discriminator : List String
  attributes : OrderedMap AttributeType
deriving DecidableEq

/- What a schema is to be. -/
structure SchemaOutline where
  graphName : String
  nodes : OrderedMap NodeOutline
  edges : OrderedMap EdgeOutline
deriving DecidableEq

/- Make the node type of an outline. -/
def NodeOutline.build
    (o : NodeOutline) :
    Except SchemaError NodeType :=
  NodeType.make o.primaryKey o.attributes o.vectors

/- Make the edge type of an outline. -/
def EdgeOutline.build
    (o : EdgeOutline) :
    Except SchemaError EdgeType :=
  EdgeType.make o.isDirected o.source o.target o.discriminator
    o.attributes

/- Make the schema of an outline: its types, and then the whole. -/
def SchemaOutline.build
    (o : SchemaOutline) :
    Except SchemaError Schema := do
  let nodes ← o.nodes.traverse NodeOutline.build
  let edges ← o.edges.traverse EdgeOutline.build
  Schema.make o.graphName nodes edges

/- The outline of a node type. -/
def NodeType.outline
    (type : NodeType) :
    NodeOutline :=
  ⟨type.primaryKey, type.attributes, type.vectors⟩

/- The outline of an edge type. -/
def EdgeType.outline
    (type : EdgeType) :
    EdgeOutline :=
  ⟨type.isDirected, type.source, type.target, type.discriminator,
    type.attributes⟩

/- The outline of a schema. -/
def Schema.outline
    (schema : Schema) :
    SchemaOutline :=
  ⟨schema.graphName, schema.nodes.map NodeType.outline,
    schema.edges.map EdgeType.outline⟩

end GraphClient

------------------------------------------------------------
-- Well-Formed Outlines
------------------------------------------------------------

namespace GraphClient

/- Attributes have free names, and defaults that are accepted. -/
def AttributeType.AllWellFormed
    (attributes : OrderedMap AttributeType) :
    Prop :=
  ∀ entry ∈ attributes.entries,
    ¬ Keyword.Reserves entry.1 ∧
      ∀ value ∈ entry.2.default?, entry.2.dataType.accepts value = true

/- Vectors have free names, and a dimension at least. -/
def VectorType.AllWellFormed
    (vectors : OrderedMap VectorType) :
    Prop :=
  ∀ entry ∈ vectors.entries,
    ¬ Keyword.Reserves entry.1 ∧ 1 ≤ entry.2.dimension.toNat

/- What has to hold of a node type. -/
structure NodeOutline.WellFormed (o : NodeOutline) : Prop where
  attributes : AttributeType.AllWellFormed o.attributes
  vectors : VectorType.AllWellFormed o.vectors
  primaryKey : o.primaryKey ∈ o.attributes.keys

/- What has to hold of an edge type by itself. -/
structure EdgeOutline.WellFormed (o : EdgeOutline) : Prop where
  attributes : AttributeType.AllWellFormed o.attributes
  discriminator :
    ∀ name ∈ o.discriminator, name ∈ o.attributes.keys

/- What has to hold of a schema. -/
structure SchemaOutline.WellFormed (o : SchemaOutline) : Prop where
  nodes : ∀ entry ∈ o.nodes.entries, entry.2.WellFormed
  edges : ∀ entry ∈ o.edges.entries, entry.2.WellFormed
  endpoints :
    ∀ entry ∈ o.edges.entries,
      entry.2.source ∈ o.nodes.keys ∧ entry.2.target ∈ o.nodes.keys

end GraphClient

------------------------------------------------------------
-- Well-Formed Parts
------------------------------------------------------------

namespace GraphClient

/- Attributes are well-formed when each of them is accepted. -/
theorem AttributeType.allWellFormed_iff
    {attributes : OrderedMap AttributeType} :
    AllWellFormed attributes ↔
      ∀ entry ∈ attributes.entries, Accepted entry.1 entry.2 := by
  have hDefault (type : AttributeType) :
      type.default?.all type.dataType.accepts = true ↔
        ∀ value ∈ type.default?,
          type.dataType.accepts value = true := by
    cases type.default? <;> simp
  unfold AllWellFormed Accepted
  simp only [hDefault, Keyword.isReserved_eq_false_iff]

/- Vectors are well-formed when each of them is accepted. -/
theorem VectorType.allWellFormed_iff
    {vectors : OrderedMap VectorType} :
    AllWellFormed vectors ↔
      ∀ entry ∈ vectors.entries, Accepted entry.1 entry.2 := by
  have hDimension (type : VectorType) :
      type.dimension ≠ 0 ↔ 1 ≤ type.dimension.toNat := by
    rw [Nat.one_le_iff_ne_zero, Ne, Ne, ← UInt32.toNat_inj]
    rfl
  unfold AllWellFormed Accepted
  simp only [hDimension, Keyword.isReserved_eq_false_iff]

namespace NodeOutline

/- A node type is built exactly from its own outline. -/
theorem build_eq_ok_iff
    {o : NodeOutline}
    {type : NodeType} :
    o.build = .ok type ↔ type.outline = o := by
  constructor
  · intro hBuild
    unfold build NodeType.make at hBuild
    split at hBuild
    · cases hBuild
      rfl
    · cases hBuild
  · rintro rfl
    exact NodeType.make_eq_ok type

/- A node type is well-formed when its parts pass. -/
theorem wellFormed_iff
    {o : NodeOutline} :
    o.WellFormed ↔
      NodeType.check o.primaryKey o.attributes o.vectors = .ok () := by
  rw [NodeType.check_eq_ok_iff, o.attributes.contains_iff,
    ← AttributeType.allWellFormed_iff, ← VectorType.allWellFormed_iff]
  constructor
  · rintro ⟨hAttributes, hVectors, hKey⟩
    exact ⟨hAttributes, hKey, hVectors⟩
  · rintro ⟨hAttributes, hKey, hVectors⟩
    exact ⟨hAttributes, hVectors, hKey⟩

/- Exactly the well-formed outlines of node types can be built. -/
theorem exists_build_iff
    {o : NodeOutline} :
    (∃ type, o.build = .ok type) ↔ o.WellFormed := by
  rw [wellFormed_iff]
  constructor
  · rintro ⟨type, hBuild⟩
    rw [← build_eq_ok_iff.mp hBuild]
    exact type.accepted
  · intro hCheck
    exact ⟨⟨o.primaryKey, o.attributes, o.vectors, hCheck⟩,
      build_eq_ok_iff.mpr rfl⟩

end NodeOutline

namespace EdgeOutline

/- An edge type is built exactly from its own outline. -/
theorem build_eq_ok_iff
    {o : EdgeOutline}
    {type : EdgeType} :
    o.build = .ok type ↔ type.outline = o := by
  constructor
  · intro hBuild
    unfold build EdgeType.make at hBuild
    split at hBuild
    · cases hBuild
      rfl
    · cases hBuild
  · rintro rfl
    exact EdgeType.make_eq_ok type

/- An edge type is well-formed when its parts pass. -/
theorem wellFormed_iff
    {o : EdgeOutline} :
    o.WellFormed ↔
      EdgeType.check o.discriminator o.attributes = .ok () := by
  rw [EdgeType.check_eq_ok_iff, ← AttributeType.allWellFormed_iff]
  simp only [OrderedMap.contains_iff]
  exact ⟨fun hWell => ⟨hWell.attributes, hWell.discriminator⟩,
    fun hBoth => ⟨hBoth.1, hBoth.2⟩⟩

/- Exactly the well-formed outlines of edge types can be built. -/
theorem exists_build_iff
    {o : EdgeOutline} :
    (∃ type, o.build = .ok type) ↔ o.WellFormed := by
  rw [wellFormed_iff]
  constructor
  · rintro ⟨type, hBuild⟩
    rw [← build_eq_ok_iff.mp hBuild]
    exact type.accepted
  · intro hCheck
    exact ⟨⟨o.isDirected, o.source, o.target, o.discriminator,
      o.attributes, hCheck⟩, build_eq_ok_iff.mpr rfl⟩

end EdgeOutline

end GraphClient

------------------------------------------------------------
-- Schemas
------------------------------------------------------------

namespace GraphClient

/- Every schema is well-formed. -/
theorem Schema.wellFormed_outline
    (schema : Schema) :
    schema.outline.WellFormed where
  nodes := by
    intro entry hMem
    rcases List.mem_map.mp hMem with ⟨node, _, rfl⟩
    exact NodeOutline.exists_build_iff.mp
      ⟨node.2, NodeOutline.build_eq_ok_iff.mpr rfl⟩
  edges := by
    intro entry hMem
    rcases List.mem_map.mp hMem with ⟨edge, _, rfl⟩
    exact EdgeOutline.exists_build_iff.mp
      ⟨edge.2, EdgeOutline.build_eq_ok_iff.mpr rfl⟩
  endpoints := by
    intro entry hMem
    rcases List.mem_map.mp hMem with ⟨edge, hEdge, rfl⟩
    have hEnds := check_eq_ok_iff.mp schema.accepted edge hEdge
    simp only [← OrderedMap.contains_iff]
    unfold outline
    simp only [OrderedMap.contains_map]
    exact hEnds

namespace SchemaOutline

/- A schema is built exactly from its own outline. -/
theorem build_eq_ok_iff
    {o : SchemaOutline}
    {schema : Schema} :
    o.build = .ok schema ↔ schema.outline = o := by
  constructor
  · intro hBuild
    rcases Checks.bind_eq_ok_iff.mp hBuild with ⟨nodes, hNodes, hRest⟩
    rcases Checks.bind_eq_ok_iff.mp hRest with ⟨edges, hEdges, hMake⟩
    have hNodesBack : nodes.map NodeType.outline = o.nodes :=
      OrderedMap.map_of_traverse_eq_ok
        (fun _ _ => NodeOutline.build_eq_ok_iff.mp) hNodes
    have hEdgesBack : edges.map EdgeType.outline = o.edges :=
      OrderedMap.map_of_traverse_eq_ok
        (fun _ _ => EdgeOutline.build_eq_ok_iff.mp) hEdges
    unfold Schema.make at hMake
    split at hMake
    · cases hMake
      unfold Schema.outline
      rw [hNodesBack, hEdgesBack]
    · cases hMake
  · rintro rfl
    have hNodes :
        (schema.nodes.map NodeType.outline).traverse
            NodeOutline.build =
          .ok schema.nodes :=
      OrderedMap.traverse_map
        (fun _ => NodeOutline.build_eq_ok_iff.mpr rfl) schema.nodes
    have hEdges :
        (schema.edges.map EdgeType.outline).traverse
            EdgeOutline.build =
          .ok schema.edges :=
      OrderedMap.traverse_map
        (fun _ => EdgeOutline.build_eq_ok_iff.mpr rfl) schema.edges
    apply Checks.bind_eq_ok_iff.mpr
    refine ⟨schema.nodes, hNodes, ?_⟩
    apply Checks.bind_eq_ok_iff.mpr
    exact ⟨schema.edges, hEdges, Schema.make_eq_ok schema⟩

/- Exactly the well-formed outlines can be built. -/
theorem exists_build_iff
    {o : SchemaOutline} :
    (∃ schema, o.build = .ok schema) ↔ o.WellFormed := by
  constructor
  · rintro ⟨schema, hBuild⟩
    rw [← build_eq_ok_iff.mp hBuild]
    exact schema.wellFormed_outline
  · intro hWell
    have hNodes :
        ∃ nodes, o.nodes.traverse NodeOutline.build = .ok nodes :=
      OrderedMap.exists_traverse_eq_ok_iff.mpr
        (fun entry hMem =>
          NodeOutline.exists_build_iff.mpr (hWell.nodes entry hMem))
    have hEdges :
        ∃ edges, o.edges.traverse EdgeOutline.build = .ok edges :=
      OrderedMap.exists_traverse_eq_ok_iff.mpr
        (fun entry hMem =>
          EdgeOutline.exists_build_iff.mpr (hWell.edges entry hMem))
    rcases hNodes with ⟨nodes, hNodes⟩
    rcases hEdges with ⟨edges, hEdges⟩
    have hNodesBack : nodes.map NodeType.outline = o.nodes :=
      OrderedMap.map_of_traverse_eq_ok
        (fun _ _ => NodeOutline.build_eq_ok_iff.mp) hNodes
    have hEdgesBack : edges.map EdgeType.outline = o.edges :=
      OrderedMap.map_of_traverse_eq_ok
        (fun _ _ => EdgeOutline.build_eq_ok_iff.mp) hEdges
    have hCheck : Schema.check nodes edges.entries = .ok () := by
      rw [Schema.check_eq_ok_iff]
      intro entry hMem
      have hEnds := hWell.endpoints (entry.1, entry.2.outline)
      rw [← hNodesBack, ← hEdgesBack] at hEnds
      simp only [← OrderedMap.contains_iff, OrderedMap.contains_map]
        at hEnds
      exact hEnds (List.mem_map_of_mem hMem)
    refine ⟨⟨o.graphName, nodes, edges, hCheck⟩, ?_⟩
    apply build_eq_ok_iff.mpr
    unfold Schema.outline
    rw [hNodesBack, hEdgesBack]

end SchemaOutline

end GraphClient
