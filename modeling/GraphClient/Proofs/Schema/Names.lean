import GraphClient.Proofs.Schema.Definition
import Mathlib.Data.List.Perm.Basic
/-
  Which names the script that creates a graph declares.

  Key definitions include:
    * `GraphClient.Statement.attributeNames`
    * `GraphClient.Statement.typeNames`
    * `GraphClient.DeclaresOnce`
    * `GraphClient.Schema.NamesApart`

  Key theorems include:
    * `GraphClient.NodeType.perm_names_columns`
    * `GraphClient.EdgeType.nodup_names_columns_iff`
    * `GraphClient.Schema.nodup_typeNames_iff`
    * `GraphClient.Schema.declaresOnce_iff_namesApart`

  The names in one map are distinct, but a name may stand in two
  maps of a schema, a discriminator may be listed again, and the
  name of a reverse edge may be taken.  What a script declares is
  distinct exactly when none of this is the case.
-/

------------------------------------------------------------
-- Declared Names
------------------------------------------------------------

namespace GraphClient

/- The attributes that a column declares. -/
def Column.names : Column → List String
| .primaryKey name _ => [name]
| .source _ => []
| .target _ => []
| .discriminator keys => keys.map Prod.fst
| .plain name _ => [name]

namespace Statement

/- The attributes and vectors declared for a node type. -/
def attributeNames
    (vertex : String) :
    Statement → List String
| .addVertex name columns =>
    if name = vertex then columns.flatMap Column.names else []
| .addVector name vector _ =>
    if name = vertex then [vector] else []
| .addEdge _ _ _ => []

/- The types that a statement adds, with those that lead back. -/
def typeNames : Statement → List String
| .addVertex name _ => [name]
| .addEdge name isDirected _ =>
    name :: if isDirected then [reverseName name] else []
| .addVector _ _ _ => []

end Statement

/-
  Statements that declare no name twice: not for one node type,
  not in the columns of one edge type, and not among all types.
-/
structure DeclaresOnce
    (statements : List Statement) :
    Prop where
  vertices :
    ∀ vertex,
      (statements.flatMap (Statement.attributeNames vertex)).Nodup
  edges :
    ∀ name isDirected columns,
      .addEdge name isDirected columns ∈ statements →
        (columns.flatMap Column.names).Nodup
  types : (statements.flatMap Statement.typeNames).Nodup

/-
  Schemas in which no vector is named as an attribute of its node
  type, no discriminator is listed twice, no edge type is named
  as a node type, and no type is named as a reverse edge.
-/
structure Schema.NamesApart
    (schema : Schema) :
    Prop where
  vectors :
    ∀ entry ∈ schema.nodes.entries,
      ∀ name ∈ entry.2.vectors.keys, name ∉ entry.2.attributes.keys
  discriminators :
    ∀ entry ∈ schema.edges.entries, entry.2.discriminator.Nodup
  edges : ∀ name ∈ schema.edges.keys, name ∉ schema.nodes.keys
  reverses :
    ∀ entry ∈ schema.edges.entries,
      entry.2.isDirected = true →
        Statement.reverseName entry.1 ∉ schema.nodes.keys ∧
          Statement.reverseName entry.1 ∉ schema.edges.keys

end GraphClient

------------------------------------------------------------
-- Names in Columns
------------------------------------------------------------

namespace GraphClient

/- Attributes that are declared by themselves have their names. -/
theorem Column.names_plain
    (entries : Entries AttributeType) :
    (entries.map (fun entry => .plain entry.1 entry.2)).flatMap
        names =
      entries.keys := by
  rw [List.flatMap_map, Entries.keys, List.map_eq_flatMap]
  rfl

/- A node type declares its attributes, the primary key first. -/
theorem NodeType.perm_names_columns
    (type : NodeType) :
    (type.columns.flatMap Column.names).Perm
      type.attributes.keys := by
  rcases type.definedBy_columns with
    ⟨before, key, after, hSplit, hColumns⟩
  rw [hColumns, List.flatMap_cons, Column.names_plain,
    OrderedMap.keys, hSplit]
  simp only [Column.names, Entries.keys, List.map_append,
    List.map_cons, List.singleton_append]
  exact List.perm_middle.symm

/- The names of discriminators are those that are listed. -/
theorem EdgeType.map_fst_of_keyed
    {type : EdgeType}
    {names : List String}
    {keys : List (String × DataType)}
    (hKeyed : List.Forall₂ type.Keyed names keys) :
    keys.map Prod.fst = names := by
  induction hKeyed with
  | nil => rfl
  | cons hFirst _ ih =>
      rcases hFirst with ⟨found, _, rfl⟩
      exact congrArg _ ih

/-
  An edge type declares its discriminators as they are listed and
  then other attributes, so it declares a name twice only where
  it lists a discriminator twice.
-/
theorem EdgeType.nodup_names_columns_iff
    (type : EdgeType) :
    (type.columns.flatMap Column.names).Nodup ↔
      type.discriminator.Nodup := by
  rcases type.definedBy_columns with
    ⟨keys, others, hColumns, hNone, hSome, hOthers, hMem⟩
  have hKeys : keys.flatMap Column.names = type.discriminator := by
    by_cases hEmpty : type.discriminator = []
    · rw [hNone hEmpty, hEmpty]
      rfl
    · rcases hSome hEmpty with ⟨typed, rfl, hTyped⟩
      rw [List.flatMap_singleton]
      exact map_fst_of_keyed hTyped
  have hNames :
      type.columns.flatMap Column.names =
        type.discriminator ++ Entries.keys others := by
    rw [hColumns, List.flatMap_cons, List.flatMap_cons,
      List.flatMap_append, hKeys, Column.names_plain]
    rfl
  have hNodup : (Entries.keys others).Nodup :=
    type.attributes.nodup.sublist (hOthers.map Prod.fst)
  rw [hNames, List.nodup_append]
  constructor
  · exact fun hAll => hAll.1
  · intro hDiscriminator
    refine ⟨hDiscriminator, hNodup, ?_⟩
    rintro name hName other hOther rfl
    rcases List.mem_map.mp hOther with ⟨entry, hEntry, rfl⟩
    exact (hMem entry (hOthers.subset hEntry)).mp hEntry hName

end GraphClient

------------------------------------------------------------
-- Names of Node Types
------------------------------------------------------------

namespace GraphClient

/- What is listed for a key is what its value gives. -/
theorem Entries.flatMap_of_key
    {α β : Type}
    (f : α → List β)
    (key : String)
    {entries : Entries α}
    (hNodup : entries.keys.Nodup) :
    entries.flatMap
        (fun entry => if entry.1 = key then f entry.2 else []) =
      ((lookup key entries).map f).getD [] := by
  induction entries with
  | nil => rfl
  | cons entry rest ih =>
      rcases entry with ⟨k, v⟩
      rw [keys, List.map_cons, List.nodup_cons] at hNodup
      rw [List.flatMap_cons, ih hNodup.2]
      by_cases hKey : k = key
      · have hNone : lookup key rest = none :=
          (lookup_eq_none_iff key rest).mpr (hKey ▸ hNodup.1)
        simp [lookup, hKey, hNone]
      · simp [lookup, hKey]

namespace Schema

/- The names declared for a node type of a schema, or for none. -/
theorem flatMap_attributeNames
    (schema : Schema)
    (vertex : String) :
    schema.statements.flatMap (Statement.attributeNames vertex) =
      ((schema.nodes.get? vertex).map (fun type =>
          type.columns.flatMap Column.names)).getD [] ++
        ((schema.nodes.get? vertex).map (fun type =>
          type.vectors.keys)).getD [] := by
  have hEdges :
      (schema.edges.entries.map (fun entry =>
          Statement.addEdge entry.1 entry.2.isDirected
            entry.2.columns)).flatMap
          (Statement.attributeNames vertex) =
        [] := by
    rw [List.flatMap_map]
    exact List.flatMap_eq_nil_iff.mpr (fun _ _ => rfl)
  have hVectors :
      ∀ entry : String × NodeType,
        (entry.2.vectors.entries.map (fun vector =>
            Statement.addVector entry.1 vector.1 vector.2)).flatMap
            (Statement.attributeNames vertex) =
          if entry.1 = vertex then entry.2.vectors.keys else [] := by
    intro entry
    rw [List.flatMap_map]
    by_cases hVertex : entry.1 = vertex
    · simp only [Statement.attributeNames, hVertex, if_true]
      rw [OrderedMap.keys, Entries.keys, List.map_eq_flatMap]
    · simp [Statement.attributeNames, hVertex]
  rw [statements, List.flatMap_append, List.flatMap_append, hEdges,
    List.append_nil, List.flatMap_map, List.flatMap_assoc]
  simp only [hVectors, Statement.attributeNames]
  rw [Entries.flatMap_of_key
      (fun type : NodeType => type.columns.flatMap Column.names)
      vertex schema.nodes.nodup,
    Entries.flatMap_of_key
      (fun type : NodeType => type.vectors.keys)
      vertex schema.nodes.nodup]
  rfl

/-
  No name is declared twice for a node type exactly when no
  vector is named as one of its attributes.
-/
theorem nodup_attributeNames_iff
    (schema : Schema) :
    (∀ vertex,
        (schema.statements.flatMap
          (Statement.attributeNames vertex)).Nodup) ↔
      ∀ entry ∈ schema.nodes.entries,
        ∀ name ∈ entry.2.vectors.keys,
          name ∉ entry.2.attributes.keys := by
  have hType :
      ∀ type : NodeType,
        (type.columns.flatMap Column.names ++
            type.vectors.keys).Nodup ↔
          ∀ name ∈ type.vectors.keys,
            name ∉ type.attributes.keys := by
    intro type
    rw [(type.perm_names_columns.append_right _).nodup_iff,
      List.nodup_append']
    constructor
    · rintro ⟨_, _, hDisjoint⟩ name hVector hAttribute
      exact hDisjoint hAttribute hVector
    · intro hApart
      refine ⟨type.attributes.nodup, type.vectors.nodup, ?_⟩
      intro name hAttribute hVector
      exact hApart name hVector hAttribute
  constructor
  · intro hAll entry hEntry
    have hGet : schema.nodes.get? entry.1 = some entry.2 :=
      Entries.lookup_of_mem schema.nodes.nodup hEntry
    have hVertex := hAll entry.1
    rw [flatMap_attributeNames, hGet] at hVertex
    exact (hType entry.2).mp hVertex
  · intro hApart vertex
    rw [flatMap_attributeNames]
    cases hGet : schema.nodes.get? vertex with
    | none => exact List.nodup_nil
    | some type =>
        exact (hType type).mpr
          (hApart _ (Entries.mem_of_lookup hGet))

end Schema

end GraphClient

------------------------------------------------------------
-- Names of Types
------------------------------------------------------------

namespace GraphClient

namespace Schema

/- The types that lead back from the directed edges. -/
def reverseNames
    (schema : Schema) :
    List String :=
  (schema.edges.entries.filter (fun entry =>
      entry.2.isDirected)).map
    (fun entry => Statement.reverseName entry.1)

/- The types that are added, with all reverse edges put last. -/
theorem perm_typeNames
    (schema : Schema) :
    (schema.statements.flatMap Statement.typeNames).Perm
      (schema.nodes.keys ++
        (schema.edges.keys ++ schema.reverseNames)) := by
  have hNodes :
      schema.nodes.entries.flatMap (fun entry =>
          Statement.typeNames
            (.addVertex entry.1 entry.2.columns)) =
        schema.nodes.keys := by
    rw [OrderedMap.keys, Entries.keys, List.map_eq_flatMap]
    rfl
  have hVectors :
      (schema.nodes.entries.flatMap (fun entry =>
          entry.2.vectors.entries.map (fun vector =>
            Statement.addVector entry.1 vector.1
              vector.2))).flatMap
          Statement.typeNames =
        [] := by
    simp [List.flatMap_assoc, List.flatMap_map,
      Statement.typeNames]
  have hReverse :
      schema.reverseNames =
        schema.edges.entries.flatMap (fun entry =>
          if entry.2.isDirected then
            [Statement.reverseName entry.1]
          else []) := by
    rw [reverseNames]
    induction schema.edges.entries with
    | nil => rfl
    | cons entry rest ih =>
        cases hDirected : entry.2.isDirected <;>
          simp [hDirected, ih]
  rw [statements, List.flatMap_append, List.flatMap_append,
    hVectors, List.append_nil, List.flatMap_map, List.flatMap_map,
    hNodes, hReverse]
  exact (List.map_append_flatMap_perm schema.edges.entries
    Prod.fst _).symm.append_left _

/- Reverse edges are named apart as their edges are. -/
theorem nodup_reverseNames
    (schema : Schema) :
    schema.reverseNames.Nodup := by
  have hEdges :
      (schema.edges.entries.filter (fun entry =>
        entry.2.isDirected)).map Prod.fst |>.Nodup :=
    schema.edges.nodup.sublist (List.filter_sublist.map Prod.fst)
  have hInjective : Function.Injective Statement.reverseName :=
    fun _ _ hEq => (String.append_right_inj "reverse_").mp hEq
  have hNames := hEdges.map hInjective
  rwa [List.map_map] at hNames

/-
  The types that are added have distinct names exactly when no
  edge type has the name of a node type, and no type has that of
  a reverse edge.
-/
theorem nodup_typeNames_iff
    (schema : Schema) :
    (schema.statements.flatMap Statement.typeNames).Nodup ↔
      (∀ name ∈ schema.edges.keys, name ∉ schema.nodes.keys) ∧
        ∀ entry ∈ schema.edges.entries,
          entry.2.isDirected = true →
            Statement.reverseName entry.1 ∉ schema.nodes.keys ∧
              Statement.reverseName entry.1 ∉
                schema.edges.keys := by
  have hReverse :
      ∀ name : String, name ∈ schema.reverseNames ↔
        ∃ entry ∈ schema.edges.entries,
          entry.2.isDirected = true ∧
            Statement.reverseName entry.1 = name := by
    intro name
    simp only [reverseNames, List.mem_map, List.mem_filter,
      and_assoc]
  rw [schema.perm_typeNames.nodup_iff, List.nodup_append',
    List.nodup_append', List.disjoint_append_right]
  constructor
  · rintro ⟨_, ⟨_, _, hEdges⟩, hNodes, hBack⟩
    refine ⟨fun name hEdge hNode => hNodes hNode hEdge, ?_⟩
    intro entry hEntry hDirected
    have hName : Statement.reverseName entry.1 ∈
        schema.reverseNames :=
      (hReverse _).mpr ⟨entry, hEntry, hDirected, rfl⟩
    exact ⟨fun hNode => hBack hNode hName,
      fun hEdge => hEdges hEdge hName⟩
  · rintro ⟨hEdges, hBack⟩
    refine ⟨schema.nodes.nodup,
      ⟨schema.edges.nodup, schema.nodup_reverseNames, ?_⟩,
      fun name hNode hEdge => hEdges name hEdge hNode, ?_⟩
    · intro name hEdge hName
      rcases (hReverse name).mp hName with
        ⟨entry, hEntry, hDirected, rfl⟩
      exact (hBack entry hEntry hDirected).2 hEdge
    · intro name hNode hName
      rcases (hReverse name).mp hName with
        ⟨entry, hEntry, hDirected, rfl⟩
      exact (hBack entry hEntry hDirected).1 hNode

end Schema

end GraphClient

------------------------------------------------------------
-- Main Result
------------------------------------------------------------

namespace GraphClient

namespace Schema

/-
  No edge type declares a name twice exactly when none of them
  lists a discriminator twice.
-/
theorem nodup_edgeColumns_iff
    (schema : Schema) :
    (∀ name isDirected columns,
        .addEdge name isDirected columns ∈ schema.statements →
          (columns.flatMap Column.names).Nodup) ↔
      ∀ entry ∈ schema.edges.entries,
        entry.2.discriminator.Nodup := by
  constructor
  · intro hAll entry hEntry
    have hStatement :
        .addEdge entry.1 entry.2.isDirected entry.2.columns ∈
          schema.statements := by
      refine List.mem_append_left _ (List.mem_append_right _ ?_)
      exact List.mem_map_of_mem hEntry
    exact entry.2.nodup_names_columns_iff.mp
      (hAll _ _ _ hStatement)
  · intro hAll name isDirected columns hStatement
    obtain ⟨entry, hEntry, rfl⟩ :
        ∃ entry ∈ schema.edges.entries,
          entry.2.columns = columns := by
      simp only [statements, List.mem_append, List.mem_map,
        List.mem_flatMap, reduceCtorEq, and_false, exists_false,
        false_or, or_false, Statement.addEdge.injEq] at hStatement
      rcases hStatement with ⟨entry, hEntry, _, _, hColumns⟩
      exact ⟨entry, hEntry, hColumns⟩
    exact entry.2.nodup_names_columns_iff.mpr (hAll entry hEntry)

/-
  The script of a schema runs its statements, and these declare
  no name twice exactly when the names of the schema stand apart.
-/
theorem declaresOnce_iff_namesApart
    (schema : Schema) :
    schema.creationScript =
        jobScript schema.graphName schema.statements ∧
      (DeclaresOnce schema.statements ↔ schema.NamesApart) := by
  refine ⟨rfl, ?_⟩
  have hVertices := schema.nodup_attributeNames_iff
  have hEdges := schema.nodup_edgeColumns_iff
  have hTypes := schema.nodup_typeNames_iff
  constructor
  · intro hOnce
    have hNames := hTypes.mp hOnce.types
    exact ⟨hVertices.mp hOnce.vertices, hEdges.mp hOnce.edges,
      hNames.1, hNames.2⟩
  · intro hApart
    exact ⟨hVertices.mpr hApart.vectors,
      hEdges.mpr hApart.discriminators,
      hTypes.mpr ⟨hApart.edges, hApart.reverses⟩⟩

/- In a shop all names stand apart, so none is declared twice. -/
theorem declaresOnce_iff_namesApart_shop :
    shop.NamesApart ∧ DeclaresOnce shop.statements := by
  have hApart : shop.NamesApart :=
    ⟨by decide, by decide, by decide, by decide⟩
  exact ⟨hApart,
    (declaresOnce_iff_namesApart shop).2.mpr hApart⟩

end Schema

/- The attributes of advice: when it was given. -/
def EdgeType.adviceAttributes : OrderedMap AttributeType :=
  .ofList [("at", .plain .dateTime)]

/- Advice whose only discriminator is listed twice. -/
def EdgeType.advice : EdgeType where
  isDirected := true
  source := "Customer"
  target := "Customer"
  discriminator := ["at", "at"]
  attributes := EdgeType.adviceAttributes
  accepted := by decide +kernel

/- The schema of a shop with such advice. -/
def Schema.advisory : Schema where
  graphName := "Shop"
  nodes := .ofList [("Customer", .customer)]
  edges := .ofList [("Advises", .advice)]
  accepted := by decide +kernel

/-
  A discriminator that is listed twice is accepted, and then it
  is declared twice in the script.
-/
theorem Schema.advisory_declares_twice :
    EdgeType.make true "Customer" "Customer" ["at", "at"]
          EdgeType.adviceAttributes =
        .ok .advice ∧
      Schema.make "Shop" advisory.nodes advisory.edges =
        .ok advisory ∧
      advisory.creationScript =
        jobScript "Shop" advisory.statements ∧
      .addEdge "Advises" true
          [.source "Customer", .target "Customer",
            .discriminator [("at", .dateTime), ("at", .dateTime)]] ∈
        advisory.statements ∧
      Column.text
          (.discriminator [("at", .dateTime), ("at", .dateTime)]) =
        "DISCRIMINATOR(at DATETIME, at DATETIME)" ∧
      ¬ DeclaresOnce advisory.statements := by
  refine ⟨rfl, rfl, rfl, by decide, by decide, ?_⟩
  intro hOnce
  have hEdges := advisory.nodup_edgeColumns_iff.mp hOnce.edges
  exact absurd (hEdges ("Advises", .advice) (by decide)) (by decide)

end GraphClient
