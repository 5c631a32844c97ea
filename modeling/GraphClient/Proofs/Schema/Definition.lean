import GraphClient.Proofs.OrderedMap
import GraphClient.Proofs.Schema.Accepted
import GraphClient.Schema.Definition
import Mathlib.Data.List.Forall2
import Mathlib.Data.List.Nodup
/-
  What the script that creates a graph defines.

  Key definitions include:
    * `GraphClient.NodeType.DefinedBy`
    * `GraphClient.EdgeType.DefinedBy`
    * `GraphClient.Column.Reads`
    * `GraphClient.Statement.nodeTypes`
    * `GraphClient.Schema.jobScript`

  Key theorems include:
    * `GraphClient.NodeType.definedBy_columns`
    * `GraphClient.EdgeType.definedBy_columns`
    * `GraphClient.Schema.exists_addVertex_before`
    * `GraphClient.Schema.statements_eq_of_adds`
    * `GraphClient.Schema.creationScript_defines`

  The job of the script has one statement for each node type, for
  each edge type and for each vector attribute, in this order.
  Nothing that was declared is left out, and no statement names a
  node type that was not added before.
-/

------------------------------------------------------------
-- Columns of Node Types
------------------------------------------------------------

namespace GraphClient

/- Among distinct keys the key of a split has the one entry. -/
theorem Entries.filter_of_split
    {α : Type}
    {key : String}
    {value : α}
    {before after : Entries α}
    (hNodup : (keys (before ++ (key, value) :: after)).Nodup) :
    (before ++ (key, value) :: after).filter
          (fun entry => entry.1 = key) =
        [(key, value)] ∧
      (before ++ (key, value) :: after).filter
          (fun entry => !entry.1 = key) =
        before ++ after := by
  unfold keys at hNodup
  rw [List.map_append, List.map_cons, List.nodup_middle,
    List.nodup_cons, ← List.map_append] at hNodup
  have hOther : ∀ entry ∈ before ++ after, entry.1 ≠ key := by
    intro entry hMem hKey
    exact hNodup.1 (List.mem_map.mpr ⟨entry, hMem, hKey⟩)
  rw [List.forall_mem_append] at hOther
  constructor
  · rw [List.filter_append, List.filter_cons_of_pos (by simp),
      List.filter_eq_nil_iff.mpr (by simpa using hOther.1),
      List.filter_eq_nil_iff.mpr (by simpa using hOther.2)]
    rfl
  · rw [List.filter_append, List.filter_cons_of_neg (by simp),
      List.filter_eq_self.mpr (by simpa using hOther.1),
      List.filter_eq_self.mpr (by simpa using hOther.2)]

namespace NodeType

/-
  The columns of a node type: the primary key with its type comes
  first, wherever it is declared, and all other attributes follow
  in their order.
-/
def DefinedBy
    (type : NodeType)
    (columns : List Column) :
    Prop :=
  ∃ before key after,
    type.attributes.entries =
        before ++ (type.primaryKey, key) :: after ∧
      columns =
        .primaryKey type.primaryKey key.dataType ::
          (before ++ after).map
            (fun entry => .plain entry.1 entry.2)

/- The primary key of a node type is one of its attributes. -/
theorem exists_primaryKey
    (type : NodeType) :
    ∃ key, type.attributes.get? type.primaryKey = some key := by
  have hContains := (check_eq_ok_iff.mp type.accepted).2.1
  exact Option.isSome_iff_exists.mp hContains

/- The columns have the parts before and after the primary key. -/
theorem columns_of_split
    {type : NodeType}
    {before after : Entries AttributeType}
    {key : AttributeType}
    (hSplit :
      type.attributes.entries =
        before ++ (type.primaryKey, key) :: after) :
    type.columns =
      .primaryKey type.primaryKey key.dataType ::
        (before ++ after).map
          (fun entry => .plain entry.1 entry.2) := by
  have hNodup := type.attributes.nodup
  rw [hSplit] at hNodup
  rcases Entries.filter_of_split hNodup with ⟨hIs, hIsNot⟩
  simp only [columns]
  rw [hSplit, hIs, hIsNot]
  rfl

/- A node type is defined by its columns. -/
theorem definedBy_columns
    (type : NodeType) :
    type.DefinedBy type.columns := by
  rcases type.exists_primaryKey with ⟨key, hKey⟩
  rcases Entries.exists_split_of_lookup hKey with
    ⟨before, after, hSplit, _⟩
  exact ⟨before, key, after, hSplit, columns_of_split hSplit⟩

/- No other columns define it. -/
theorem DefinedBy.eq_columns
    {type : NodeType}
    {columns : List Column}
    (hColumns : type.DefinedBy columns) :
    columns = type.columns := by
  rcases hColumns with ⟨before, key, after, hSplit, rfl⟩
  exact (columns_of_split hSplit).symm

end NodeType

end GraphClient

------------------------------------------------------------
-- Columns of Edge Types
------------------------------------------------------------

namespace GraphClient

/- Of distinct entries, those that are left are known by themselves. -/
theorem Entries.eq_filter_of_sublist
    {α : Type}
    {keeps : String × α → Bool}
    {kept items : Entries α}
    (hNodup : items.Nodup)
    (hSublist : kept.Sublist items)
    (hKeeps : ∀ item ∈ items, item ∈ kept ↔ keeps item = true) :
    kept = items.filter keeps := by
  have hPerm : kept.Perm (items.filter keeps) := by
    rw [List.perm_ext_iff_of_nodup (hNodup.sublist hSublist)
      (hNodup.filter keeps)]
    intro item
    rw [List.mem_filter]
    constructor
    · intro hItem
      have hListed := hSublist.subset hItem
      exact ⟨hListed, (hKeeps item hListed).mp hItem⟩
    · rintro ⟨hListed, hKept⟩
      exact (hKeeps item hListed).mpr hKept
  have hKept : kept.filter keeps = kept := by
    rw [List.filter_eq_self]
    intro item hItem
    exact (hKeeps item (hSublist.subset hItem)).mp hItem
  have hFiltered := hSublist.filter keeps
  rw [hKept] at hFiltered
  exact hFiltered.eq_of_length hPerm.length_eq

namespace EdgeType

/- A discriminator with the type of the attribute it names. -/
def Keyed
    (type : EdgeType)
    (name : String)
    (key : String × DataType) :
    Prop :=
  ∃ found,
    type.attributes.get? name = some found ∧
      key = (name, found.dataType)

/-
  The columns of an edge type: its ends come first, then all of
  its discriminators in one column, if there are any, and then
  all other attributes in their order.
-/
def DefinedBy
    (type : EdgeType)
    (columns : List Column) :
    Prop :=
  ∃ (keys : List Column) (others : Entries AttributeType),
    columns =
        .source type.source :: .target type.target ::
          (keys ++
            others.map (fun entry => .plain entry.1 entry.2)) ∧
      (type.discriminator = [] → keys = []) ∧
      (type.discriminator ≠ [] →
        ∃ typed,
          keys = [.discriminator typed] ∧
            List.Forall₂ type.Keyed type.discriminator typed) ∧
      others.Sublist type.attributes.entries ∧
      ∀ entry ∈ type.attributes.entries,
        entry ∈ others ↔ entry.1 ∉ type.discriminator

/- A discriminator of an edge type is one of its attributes. -/
theorem exists_discriminator
    (type : EdgeType)
    {name : String}
    (hName : name ∈ type.discriminator) :
    ∃ found, type.attributes.get? name = some found := by
  have hContains :=
    (check_eq_ok_iff.mp type.accepted).2 name hName
  exact Option.isSome_iff_exists.mp hContains

/- No discriminator is dropped for want of a type. -/
theorem forall₂_discriminatorKeys
    (type : EdgeType) :
    List.Forall₂ type.Keyed type.discriminator
      type.discriminatorKeys := by
  have hAll :
      ∀ names : List String,
        (∀ name ∈ names, name ∈ type.discriminator) →
        List.Forall₂ type.Keyed names
          (names.filterMap (fun name =>
            (type.attributes.get? name).map
              (fun found => (name, found.dataType)))) := by
    intro names hNames
    induction names with
    | nil => exact .nil
    | cons name names ih =>
        rw [List.forall_mem_cons] at hNames
        rcases type.exists_discriminator hNames.1 with
          ⟨found, hFound⟩
        rw [List.filterMap_cons_some (by rw [hFound]; rfl)]
        exact .cons ⟨found, hFound, rfl⟩ (ih hNames.2)
  exact hAll type.discriminator (fun _ hName => hName)

/- An edge type is defined by its columns. -/
theorem definedBy_columns
    (type : EdgeType) :
    type.DefinedBy type.columns := by
  refine ⟨_, _, rfl, ?_, ?_, List.filter_sublist, ?_⟩
  · intro hNone
    simp [hNone]
  · intro hSome
    refine ⟨type.discriminatorKeys, ?_,
      type.forall₂_discriminatorKeys⟩
    simp [hSome]
  · intro entry hEntry
    simp [hEntry]

/- The types of discriminators are those of the attributes. -/
theorem Keyed.unique
    {type : EdgeType}
    {name : String}
    {key other : String × DataType}
    (hKey : type.Keyed name key)
    (hOther : type.Keyed name other) :
    key = other := by
  rcases hKey with ⟨found, hFound, rfl⟩
  rcases hOther with ⟨otherFound, hOtherFound, rfl⟩
  rw [hFound] at hOtherFound
  cases hOtherFound
  rfl

/- No other columns define an edge type. -/
theorem DefinedBy.eq_columns
    {type : EdgeType}
    {columns : List Column}
    (hColumns : type.DefinedBy columns) :
    columns = type.columns := by
  rcases hColumns with
    ⟨keys, others, rfl, hNone, hSome, hSublist, hMem⟩
  have hOthers :
      others =
        type.attributes.entries.filter
          (fun entry => !type.discriminator.contains entry.1) :=
    Entries.eq_filter_of_sublist type.attributes.nodup.of_map hSublist
      (fun entry hEntry => by simp [hMem entry hEntry])
  by_cases hEmpty : type.discriminator = []
  · rw [hOthers, hNone hEmpty]
    simp [columns, hEmpty]
  · rcases hSome hEmpty with ⟨typed, rfl, hTyped⟩
    have hUnique : Relator.RightUnique type.Keyed :=
      fun _ _ _ => Keyed.unique
    have hSame : typed = type.discriminatorKeys :=
      hUnique.forall₂ hTyped type.forall₂_discriminatorKeys
    rw [hOthers, hSame]
    simp [columns, hEmpty]

end EdgeType

end GraphClient

------------------------------------------------------------
-- Texts of Columns
------------------------------------------------------------

namespace GraphClient

namespace Column

/-
  How a column reads: a name is followed by its type, and by its
  default if there is one.
-/
inductive Reads : Column → String → Prop
| primaryKey (name : String) (type : DataType) :
    Reads (.primaryKey name type)
      ("PRIMARY_ID " ++ name ++ " " ++ type.keyword)
| source (nodeType : String) :
    Reads (.source nodeType) ("FROM " ++ nodeType)
| target (nodeType : String) :
    Reads (.target nodeType) ("TO " ++ nodeType)
| discriminator (keys : List (String × DataType)) :
    Reads (.discriminator keys)
      ("DISCRIMINATOR(" ++
        String.intercalate ", "
          (keys.map (fun key => key.1 ++ " " ++ key.2.keyword)) ++
        ")")
| plain (name : String) (type : DataType) :
    Reads (.plain name ⟨type, none⟩) (name ++ " " ++ type.keyword)
| withDefault (name : String) (type : DataType) (value : Value) :
    Reads (.plain name ⟨type, some value⟩)
      (name ++ " " ++ type.keyword ++ " DEFAULT " ++ value.literal)

/- A column reads as its text. -/
theorem reads_text
    (column : Column) :
    column.Reads column.text := by
  cases column with
  | primaryKey name type =>
      change Reads _ ("PRIMARY_ID " ++ (name ++ " " ++ type.keyword))
      rw [← String.append_assoc, ← String.append_assoc]
      exact .primaryKey name type
  | source nodeType => exact .source nodeType
  | target nodeType => exact .target nodeType
  | discriminator keys =>
      change Reads _ ("DISCRIMINATOR(" ++ Text.join ", " _ ++ ")")
      rw [Text.join_eq]
      exact .discriminator keys
  | plain name type =>
      rcases type with ⟨type, _ | value⟩
      · exact .plain name type
      · exact .withDefault name type value

/- Columns read as their texts, one by one. -/
theorem forall₂_reads
    (columns : List Column) :
    List.Forall₂ Reads columns (columns.map text) :=
  List.forall₂_map_right_iff.mpr
    (List.forall₂_same.mpr (fun column _ => column.reads_text))

end Column

end GraphClient

------------------------------------------------------------
-- Statements
------------------------------------------------------------

namespace GraphClient

/- The node types that a column names. -/
def Column.nodeTypes : Column → List String
| .source nodeType => [nodeType]
| .target nodeType => [nodeType]
| _ => []

namespace Statement

/- The node types that a statement takes as given. -/
def nodeTypes : Statement → List String
| .addVertex _ columns => columns.flatMap Column.nodeTypes
| .addEdge _ _ columns => columns.flatMap Column.nodeTypes
| .addVector vertex _ _ => [vertex]

/- A statement that adds a node type, and how it reads. -/
def AddsNodeType
    (entry : String × NodeType)
    (statement : Statement) :
    Prop :=
  ∃ columns texts,
    statement = .addVertex entry.1 columns ∧
      entry.2.DefinedBy columns ∧
      List.Forall₂ Column.Reads columns texts ∧
      statement.text =
        "ADD VERTEX " ++ entry.1 ++
          "(" ++ String.intercalate ", " texts ++ ")" ++
          " WITH PRIMARY_ID_AS_ATTRIBUTE=\"true\";"

/-
  A statement that adds an edge type, and how it reads: only a
  directed edge has a type that leads back.
-/
def AddsEdgeType
    (entry : String × EdgeType)
    (statement : Statement) :
    Prop :=
  ∃ columns texts,
    statement = .addEdge entry.1 entry.2.isDirected columns ∧
      entry.2.DefinedBy columns ∧
      List.Forall₂ Column.Reads columns texts ∧
      statement.text =
        if entry.2.isDirected then
          "ADD DIRECTED EDGE " ++ entry.1 ++
            "(" ++ String.intercalate ", " texts ++ ")" ++
            " WITH REVERSE_EDGE=\"reverse_" ++ entry.1 ++ "\";"
        else
          "ADD UNDIRECTED EDGE " ++ entry.1 ++
            "(" ++ String.intercalate ", " texts ++ ");"

/- A statement that adds a vector to a node type, as it reads. -/
def AddsVector
    (vertex : String)
    (entry : String × VectorType)
    (statement : Statement) :
    Prop :=
  statement = .addVector vertex entry.1 entry.2 ∧
    statement.text =
      "ALTER VERTEX " ++ vertex ++
        " ADD VECTOR ATTRIBUTE " ++ entry.1 ++
        "(DIMENSION=" ++ toString entry.2.dimension.toNat ++
        ", METRIC=\"" ++ entry.2.metric.keyword ++ "\");"

/- The name of a type, with its columns between brackets. -/
theorem withColumns_eq
    (name : String)
    (columns : List Column) :
    withColumns name columns =
      name ++ "(" ++
        String.intercalate ", " (columns.map Column.text) ++ ")" := by
  rw [withColumns, Text.join_eq]

/- The columns of a node type add it. -/
theorem addsNodeType_addVertex
    (entry : String × NodeType) :
    AddsNodeType entry (.addVertex entry.1 entry.2.columns) := by
  refine ⟨entry.2.columns, _, rfl, entry.2.definedBy_columns,
    Column.forall₂_reads _, ?_⟩
  change "ADD VERTEX " ++ withColumns entry.1 _ ++ _ = _
  rw [withColumns_eq]
  simp only [String.append_assoc]

/- The columns of an edge type add it. -/
theorem addsEdgeType_addEdge
    (entry : String × EdgeType) :
    AddsEdgeType entry
      (.addEdge entry.1 entry.2.isDirected entry.2.columns) := by
  refine ⟨entry.2.columns, _, rfl, entry.2.definedBy_columns,
    Column.forall₂_reads _, ?_⟩
  cases entry.2.isDirected with
  | true =>
      change "ADD DIRECTED EDGE " ++ withColumns entry.1 _ ++ _ ++
        ("reverse_" ++ entry.1) ++ _ = _
      rw [withColumns_eq, if_pos rfl]
      simp only [String.append_assoc]
      rfl
  | false =>
      change "ADD UNDIRECTED EDGE " ++ withColumns entry.1 _ ++ _ = _
      rw [withColumns_eq, if_neg (by decide)]
      simp only [String.append_assoc]
      rfl

/- No other statement adds a node type. -/
theorem AddsNodeType.eq_addVertex
    {entry : String × NodeType}
    {statement : Statement}
    (hAdds : AddsNodeType entry statement) :
    statement = .addVertex entry.1 entry.2.columns := by
  rcases hAdds with ⟨columns, _, hStatement, hColumns, _⟩
  rw [hStatement, hColumns.eq_columns]

/- No other statement adds an edge type. -/
theorem AddsEdgeType.eq_addEdge
    {entry : String × EdgeType}
    {statement : Statement}
    (hAdds : AddsEdgeType entry statement) :
    statement =
      .addEdge entry.1 entry.2.isDirected entry.2.columns := by
  rcases hAdds with ⟨columns, _, hStatement, hColumns, _⟩
  rw [hStatement, hColumns.eq_columns]

end Statement

/- A node type takes no other node types as given. -/
theorem NodeType.nodeTypes_columns
    (type : NodeType) :
    type.columns.flatMap Column.nodeTypes = [] := by
  rcases type.definedBy_columns with ⟨before, key, after, _, hColumns⟩
  rw [hColumns, List.flatMap_cons, List.flatMap_map]
  exact List.flatMap_eq_nil_iff.mpr (fun _ _ => rfl)

/- An edge type takes the types of its ends as given. -/
theorem EdgeType.nodeTypes_columns
    (type : EdgeType) :
    type.columns.flatMap Column.nodeTypes =
      [type.source, type.target] := by
  rcases type.definedBy_columns with
    ⟨keys, others, hColumns, hNone, hSome, _⟩
  have hKeys : keys.flatMap Column.nodeTypes = [] := by
    by_cases hEmpty : type.discriminator = []
    · rw [hNone hEmpty]
      rfl
    · rcases hSome hEmpty with ⟨typed, rfl, _⟩
      rfl
  rw [hColumns]
  simp [Column.nodeTypes, List.flatMap_append, List.flatMap_map,
    hKeys]

namespace Schema

variable {schema : Schema}

/- What is given to a statement is a node type of the schema. -/
theorem mem_keys_of_nodeTypes
    {statement : Statement}
    (hStatement : statement ∈ schema.statements)
    {name : String}
    (hName : name ∈ statement.nodeTypes) :
    name ∈ schema.nodes.keys ∧
      ∀ vertex columns, statement ≠ .addVertex vertex columns := by
  rcases List.mem_append.mp hStatement with hTypes | hVectors
  · rcases List.mem_append.mp hTypes with hNodes | hEdges
    · rcases List.mem_map.mp hNodes with ⟨entry, _, rfl⟩
      rw [Statement.nodeTypes, NodeType.nodeTypes_columns] at hName
      cases hName
    · rcases List.mem_map.mp hEdges with ⟨entry, hEntry, rfl⟩
      have hEnds := check_eq_ok_iff.mp schema.accepted entry hEntry
      rw [OrderedMap.contains_iff, OrderedMap.contains_iff] at hEnds
      rw [Statement.nodeTypes, EdgeType.nodeTypes_columns,
        List.mem_pair] at hName
      refine ⟨?_, fun _ _ hEq => by cases hEq⟩
      rcases hName with rfl | rfl
      · exact hEnds.1
      · exact hEnds.2
  · rcases List.mem_flatMap.mp hVectors with ⟨entry, hEntry, hVector⟩
    rcases List.mem_map.mp hVector with ⟨vector, _, rfl⟩
    rw [Statement.nodeTypes, List.mem_singleton] at hName
    refine ⟨?_, fun _ _ hEq => by cases hEq⟩
    rw [hName]
    exact List.mem_map_of_mem hEntry

/-
  What is given to a statement is added by one before it: the
  statement is none of those that add node types, and these all
  come first.
-/
theorem exists_addVertex_before
    {before after : List Statement}
    {statement : Statement}
    (hSplit : schema.statements = before ++ statement :: after)
    {name : String}
    (hName : name ∈ statement.nodeTypes) :
    ∃ columns, .addVertex name columns ∈ before := by
  have hStatement : statement ∈ schema.statements := by
    simp [hSplit]
  rcases mem_keys_of_nodeTypes hStatement hName with ⟨hKey, hOther⟩
  rcases List.mem_map.mp hKey with ⟨entry, hEntry, rfl⟩
  refine ⟨entry.2.columns, ?_⟩
  have hAdds :
      Statement.addVertex entry.1 entry.2.columns ∈
        schema.nodes.entries.map
          (fun entry => .addVertex entry.1 entry.2.columns) :=
    List.mem_map_of_mem hEntry
  unfold statements at hSplit
  rw [List.append_assoc, List.append_eq_append_iff] at hSplit
  rcases hSplit with ⟨more, hBefore, _⟩ | ⟨more, hFirst, hRest⟩
  · rw [hBefore]
    exact List.mem_append_left more hAdds
  · cases more with
    | nil =>
        rw [List.append_nil] at hFirst
        rw [← hFirst]
        exact hAdds
    | cons first more =>
        -- then the statement itself would add a node type
        obtain rfl : statement = first := (List.cons.inj hRest).1
        have hMem : statement ∈ schema.nodes.entries.map
            (fun entry => .addVertex entry.1 entry.2.columns) := by
          rw [hFirst]
          simp
        rcases List.mem_map.mp hMem with ⟨entry, _, rfl⟩
        exact (hOther _ _ rfl).elim

/-
  Statements that add each node type, each edge type and each
  vector attribute in order are those of the schema.
-/
theorem statements_eq_of_adds
    {vertices edges : List Statement}
    {vectors : List (List Statement)}
    (hVertices :
      List.Forall₂ Statement.AddsNodeType schema.nodes.entries
        vertices)
    (hEdges :
      List.Forall₂ Statement.AddsEdgeType schema.edges.entries edges)
    (hVectors :
      List.Forall₂
        (fun entry group =>
          List.Forall₂ (Statement.AddsVector entry.1)
            entry.2.vectors.entries group)
        schema.nodes.entries vectors) :
    schema.statements = vertices ++ edges ++ vectors.flatten := by
  have hNodes :
      schema.nodes.entries.map
          (fun entry => .addVertex entry.1 entry.2.columns) =
        vertices := by
    rw [← List.forall₂_eq_eq_eq, List.forall₂_map_left_iff]
    exact hVertices.imp (fun _ _ hAdds => hAdds.eq_addVertex.symm)
  have hTypes :
      schema.edges.entries.map
          (fun entry =>
            .addEdge entry.1 entry.2.isDirected entry.2.columns) =
        edges := by
    rw [← List.forall₂_eq_eq_eq, List.forall₂_map_left_iff]
    exact hEdges.imp (fun _ _ hAdds => hAdds.eq_addEdge.symm)
  have hGroups :
      schema.nodes.entries.map (fun entry =>
          entry.2.vectors.entries.map
            (fun vector => .addVector entry.1 vector.1 vector.2)) =
        vectors := by
    rw [← List.forall₂_eq_eq_eq, List.forall₂_map_left_iff]
    apply hVectors.imp
    intro entry group hGroup
    rw [← List.forall₂_eq_eq_eq, List.forall₂_map_left_iff]
    exact hGroup.imp (fun _ _ hAdds => hAdds.1.symm)
  rw [statements, List.flatMap_def, hNodes, hTypes, hGroups]

end Schema

end GraphClient

------------------------------------------------------------
-- Main Result
------------------------------------------------------------

namespace GraphClient

namespace Schema

/- The script that runs statements in a job of a new graph. -/
def jobScript
    (graphName : String)
    (statements : List Statement) :
    String :=
  let job := "schema_change_job_for_graph_" ++ graphName
  Text.lines
    (["CREATE GRAPH " ++ graphName ++ "()",
      "CREATE SCHEMA_CHANGE JOB " ++ job ++
        " FOR GRAPH " ++ graphName ++ " \x7b"] ++
    statements.map (fun statement => "  " ++ statement.text) ++
    ["\x7d",
      "RUN SCHEMA_CHANGE JOB " ++ job,
      "DROP JOB " ++ job])

/-
  The script of a schema runs a job that adds each node type with
  its columns, then each edge type with its columns, then each
  vector attribute, all in the order of their declaration, and
  does nothing else.  Where a statement names a node type, a
  statement before it has added that type.
-/
theorem creationScript_defines
    (schema : Schema) :
    ∃ (vertices edges : List Statement)
        (vectors : List (List Statement)),
      schema.creationScript =
          jobScript schema.graphName
            (vertices ++ edges ++ vectors.flatten) ∧
        List.Forall₂ Statement.AddsNodeType
          schema.nodes.entries vertices ∧
        List.Forall₂ Statement.AddsEdgeType
          schema.edges.entries edges ∧
        List.Forall₂
          (fun entry group =>
            List.Forall₂ (Statement.AddsVector entry.1)
              entry.2.vectors.entries group)
          schema.nodes.entries vectors ∧
        ∀ before statement after,
          vertices ++ edges ++ vectors.flatten =
              before ++ statement :: after →
            ∀ name ∈ statement.nodeTypes,
              ∃ columns, .addVertex name columns ∈ before := by
  refine ⟨
    schema.nodes.entries.map
      (fun entry => .addVertex entry.1 entry.2.columns),
    schema.edges.entries.map
      (fun entry =>
        .addEdge entry.1 entry.2.isDirected entry.2.columns),
    schema.nodes.entries.map (fun entry =>
      entry.2.vectors.entries.map
        (fun vector => .addVector entry.1 vector.1 vector.2)),
    ?_, ?_, ?_, ?_, ?_⟩
  · rw [← List.flatMap_def]
    rfl
  · rw [List.forall₂_map_right_iff, List.forall₂_same]
    intro entry _
    exact Statement.addsNodeType_addVertex entry
  · rw [List.forall₂_map_right_iff, List.forall₂_same]
    intro entry _
    exact Statement.addsEdgeType_addEdge entry
  · rw [List.forall₂_map_right_iff, List.forall₂_same]
    intro entry _
    rw [List.forall₂_map_right_iff, List.forall₂_same]
    intro vector _
    exact ⟨rfl, rfl⟩
  · rw [← List.flatMap_def]
    intro before statement after hSplit name hName
    exact exists_addVertex_before hSplit hName

end Schema

/- Customers, whose primary key is declared after their name. -/
def NodeType.customer : NodeType where
  primaryKey := "id"
  attributes :=
    .ofList
      [("name", ⟨.string, some (.string "x")⟩),
        ("id", .plain .string)]
  vectors := .ofList [("face", .ofDimension 3)]
  accepted := by decide +kernel

/- The schema of a shop in which customers advise each other. -/
def Schema.shop : Schema where
  graphName := "Shop"
  nodes := .ofList [("Customer", .customer)]
  edges := .ofList [("Advises",
    { isDirected := true
      source := "Customer"
      target := "Customer"
      discriminator := ["at"]
      attributes := .ofList [("at", .plain .dateTime)]
      accepted := by decide +kernel })]
  accepted := by decide +kernel

/-
  The script of the shop: the primary key of customers comes
  first, and the discriminator of advice has its type.
-/
theorem Schema.creationScript_defines_shop :
    shop.creationScript =
      "CREATE GRAPH Shop()\n" ++
        "CREATE SCHEMA_CHANGE JOB schema_change_job_for_graph_Shop" ++
        " FOR GRAPH Shop \x7b\n" ++
        "  ADD VERTEX Customer(PRIMARY_ID id STRING," ++
        " name STRING DEFAULT \"x\")" ++
        " WITH PRIMARY_ID_AS_ATTRIBUTE=\"true\";\n" ++
        "  ADD DIRECTED EDGE Advises(FROM Customer, TO Customer," ++
        " DISCRIMINATOR(at DATETIME))" ++
        " WITH REVERSE_EDGE=\"reverse_Advises\";\n" ++
        "  ALTER VERTEX Customer ADD VECTOR ATTRIBUTE" ++
        " face(DIMENSION=3, METRIC=\"COSINE\");\n" ++
        "\x7d\n" ++
        "RUN SCHEMA_CHANGE JOB schema_change_job_for_graph_Shop\n" ++
        "DROP JOB schema_change_job_for_graph_Shop" := by
  rcases creationScript_defines shop with
    ⟨vertices, edges, vectors, hScript, hVertices, hEdges,
      hVectors, _⟩
  rw [hScript,
    ← statements_eq_of_adds hVertices hEdges hVectors]
  decide +kernel

end GraphClient
