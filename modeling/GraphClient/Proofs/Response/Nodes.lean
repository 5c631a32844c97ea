import GraphClient.Proofs.Response.Projection
import GraphClient.Proofs.Response.Records
import Mathlib.Data.List.Nodup
/-
  The tables of nodes.

  Key theorems include:
    * `GraphClient.NodeRecord.columns_eq`
    * `GraphClient.Response.nodeTable_shape`
    * `GraphClient.Response.nodeTable_whole`

  A table of nodes has a row for each record of a node, in the
  order of the response, and each row shows the record that it
  is for.  Without a projection the columns are the keys of the
  nodes and then their attributes, so that no attribute is lost.
-/

------------------------------------------------------------
-- Columns
------------------------------------------------------------

namespace GraphClient

namespace NodeRecord

/- The columns are the keys, and then the other attributes. -/
theorem columns_eq
    (schema : Schema)
    (nodes : List NodeRecord) :
    columns schema nodes =
      (nodes.map (keyColumn schema)).eraseDups ++
        ((nodes.flatMap (fun node => node.attributes.keys)).filter
          (fun name => name ∉ nodes.map (keyColumn schema))).eraseDups := by
  have hKeys (keys : List String) :
      Columns.addAll [] keys = keys.eraseDups := by
    rw [Columns.addAll_eq, List.nil_append,
      List.filter_eq_self.mpr (by simp)]
  unfold columns
  rw [hKeys, Columns.addAll_eq]
  simp only [List.mem_eraseDups]

/- No column is there twice. -/
theorem nodup_columns
    (schema : Schema)
    (nodes : List NodeRecord) :
    (columns schema nodes).Nodup :=
  Columns.nodup_addAll (Columns.nodup_addAll List.nodup_nil _) _

/- A column is the key or an attribute of some node. -/
theorem mem_columns_iff
    {schema : Schema}
    {nodes : List NodeRecord}
    {column : String} :
    column ∈ columns schema nodes ↔
      (∃ node ∈ nodes, node.KeyedBy schema column) ∨
        ∃ node ∈ nodes, column ∈ node.attributes.keys := by
  unfold columns
  simp [Columns.mem_addAll_iff, keyedBy_iff, eq_comm]

/- Every node has a column, so that only none have none. -/
theorem columns_eq_nil_iff
    {schema : Schema}
    {nodes : List NodeRecord} :
    columns schema nodes = [] ↔ nodes = [] := by
  constructor
  · intro hNone
    cases nodes with
    | nil => rfl
    | cons node rest =>
        have hKey :
            node.keyColumn schema ∈ columns schema (node :: rest) :=
          mem_columns_iff.mpr
            (Or.inl ⟨node, List.mem_cons_self, keyedBy_iff.mpr rfl⟩)
        rw [hNone] at hKey
        cases hKey
  · intro hNone
    rw [hNone]
    rfl

end NodeRecord

end GraphClient

------------------------------------------------------------
-- Rows
------------------------------------------------------------

namespace GraphClient

namespace Response

/- The columns are those of the projection, or of the nodes. -/
theorem columns_nodeTable
    (schema : Schema)
    (response : Response)
    (projection? : Option (List String)) :
    (response.nodeTable schema projection?).columns =
      projection?.getD
        (NodeRecord.columns schema (NodeRecord.all response)) :=
  Table.columns_pushAll _ _

/- There is a row for each node, in order. -/
theorem rows_nodeTable
    (schema : Schema)
    (response : Response)
    (projection? : Option (List String)) :
    (response.nodeTable schema projection?).rows =
      (NodeRecord.all response).map (fun node =>
        Table.align (response.nodeTable schema projection?).columns
          (node.row schema projection?.isSome
            (response.nodeTable schema projection?).columns)) := by
  rw [columns_nodeTable]
  unfold nodeTable
  rw [Table.rows_pushAll, List.map_map]
  rfl

/- In the row of a node a column shows what the node has for it. -/
theorem get?_align_row
    (schema : Schema)
    (isProjected : Bool)
    (node : NodeRecord)
    {columns : List String}
    {column : String}
    (hOnce : columns.count column = 1) :
    (Table.align columns
        (node.row schema isProjected columns)).get? column =
      some ((node.cell? schema isProjected column).getD .null) := by
  have hColumn : column ∈ columns :=
    List.count_pos_iff.mp (by omega)
  rw [Table.get?_align, if_pos hColumn, if_pos hOnce,
    NodeRecord.get?_row_of_mem schema isProjected node hColumn]

end Response

end GraphClient

------------------------------------------------------------
-- Shape
------------------------------------------------------------

namespace GraphClient

namespace Response

/-
  A table of nodes has one row for each record of a node, in the
  order of the response.  A row has the columns of the table,
  without repetition, and shows its own record under those that
  are listed once.  The columns are the projection as it is; or
  else the keys as they are first seen, and then the attributes
  that are not among them, so that there is no column only when
  there is no node.
-/
theorem nodeTable_shape
    (schema : Schema)
    (response : Response)
    (projection? : Option (List String)) :
    List.Forall₂
        (fun node row =>
          OrderedMap.keys row =
              (response.nodeTable schema
                projection?).columns.eraseDups ∧
            ∀ column,
              (response.nodeTable schema projection?).columns.count
                  column = 1 →
                OrderedMap.get? row column =
                  some ((node.cell? schema projection?.isSome
                    column).getD .null))
        (NodeRecord.all response)
        (response.nodeTable schema projection?).rows ∧
      (response.Ordered →
        ∃ places : List Place,
          places.Pairwise Place.Before ∧
            (∀ place, place ∈ places ↔
              ∃ record ∈ response.item? place,
                Record.IsNode record) ∧
            List.Forall₂
              (fun place node =>
                ∃ fields,
                  response.item? place = some (.object fields) ∧
                    NodeRecord.Describes node fields)
              places (NodeRecord.all response)) ∧
      (∃ keys,
        List.Forall₂ (NodeRecord.KeyedBy schema)
            (NodeRecord.all response) keys ∧
          (response.nodeTable schema projection?).columns =
            projection?.getD
              (keys.eraseDups ++
                (((NodeRecord.all response).flatMap
                    (fun node => node.attributes.keys)).filter
                  (fun name => name ∉ keys)).eraseDups)) ∧
      (projection? = none →
        (response.nodeTable schema projection?).columns.Nodup ∧
          ((response.nodeTable schema projection?).columns = [] ↔
            NodeRecord.all response = [])) := by
  refine ⟨?_, ?_, ?_, ?_⟩
  · rw [rows_nodeTable, List.forall₂_map_right_iff]
    apply List.forall₂_same.mpr
    intro node _
    exact ⟨Table.keys_align _ _,
      fun column hOnce => get?_align_row schema _ node hOnce⟩
  · intro hOrdered
    rcases exists_places hOrdered NodeRecord.ofJson? with
      ⟨places, hBefore, hPlaces, hNodes⟩
    refine ⟨places, hBefore, ?_, hNodes.imp ?_⟩
    · simpa only [Record.isNode_iff] using hPlaces
    · intro place node hNode
      rcases Option.bind_eq_some_iff.mp hNode with
        ⟨record, hRecord, hRead⟩
      rcases NodeRecord.ofJson?_eq_some_iff.mp hRead with
        ⟨fields, rfl, hDescribes⟩
      exact ⟨fields, hRecord, hDescribes⟩
  · refine ⟨(NodeRecord.all response).map
      (NodeRecord.keyColumn schema), ?_, ?_⟩
    · rw [List.forall₂_map_right_iff]
      exact List.forall₂_same.mpr
        (fun _ _ => NodeRecord.keyedBy_iff.mpr rfl)
    · rw [columns_nodeTable, NodeRecord.columns_eq]
  · intro hNone
    rw [columns_nodeTable, hNone, Option.getD_none]
    exact ⟨NodeRecord.nodup_columns schema _,
      NodeRecord.columns_eq_nil_iff⟩

/- A user whose id is a number, and someone else, among others. -/
def strangers : Response :=
  [Json.sorted
    [("Others",
        .array
          [.object
            [("attributes", .object [("rank", .int 3)]),
              ("v_id", .string "n2"),
              ("v_type", .string "Ghost")],
            .object [("id", .string "n3"), ("v_id", .null)]]),
      ("Count", .int 2),
      ("Friends",
        .array
          [.null,
            .object
              [("attributes",
                  .object [("name", .string "A"), ("v_id", .int 7)]),
                ("id", .int 1),
                ("type", .string "User")]])]]

/- The user comes first, because of the name of the list. -/
theorem nodeTable_shape_strangers :
    (strangers.nodeTable .users none).columns.Nodup ∧
      ∃ places : List Place,
        places.Pairwise Place.Before ∧
          ⟨0, "Friends", 1⟩ ∈ places ∧ ⟨0, "Others", 0⟩ ∈ places ∧
          ⟨0, "Others", 1⟩ ∉ places ∧
          places.length =
            (strangers.nodeTable .users none).rows.length := by
  have hOrdered : strangers.Ordered := by
    intro set hSet
    rw [List.mem_singleton.mp hSet]
    exact Json.pairwise_keys_sorted _
  rcases nodeTable_shape .users strangers none with
    ⟨hRows, hPlaces, _, hColumns⟩
  rcases hPlaces hOrdered with ⟨places, hBefore, hMem, hNodes⟩
  refine ⟨(hColumns rfl).1, places, hBefore, ?_, ?_, ?_,
    hNodes.length_eq.trans hRows.length_eq⟩
  · exact (hMem _).mpr
      ⟨_, rfl, _, rfl, .int 1, Or.inr ⟨rfl, rfl⟩, trivial⟩
  · exact (hMem _).mpr
      ⟨_, rfl, _, rfl, .string "n2", Or.inl rfl, trivial⟩
  · -- a node that has a `v_id` is not known by its `id`
    intro hPlace
    rcases (hMem _).mp hPlace with
      ⟨record, hRecord, fields, hFields, id, hId, hIsId⟩
    cases hRecord
    cases hFields
    rcases hId with hField | ⟨hNone, _⟩
    · cases hField
      exact hIsId
    · cases hNone

end Response

end GraphClient

------------------------------------------------------------
-- Whole Records
------------------------------------------------------------

namespace GraphClient

namespace NodeRecord

/- Without a projection the key shows the id, if not an attribute. -/
theorem cell?_key
    (schema : Schema)
    (node : NodeRecord) :
    (node.cell? schema false (node.keyColumn schema)).getD .null =
      (node.attributes.lookup (node.keyColumn schema)).getD
        (.string node.id) := by
  unfold cell?
  cases node.attributes.lookup (node.keyColumn schema) <;> simp

/- Of a node only its type is shown beside key and attributes. -/
theorem cell?_other
    {schema : Schema}
    {node : NodeRecord}
    {column : String}
    (hAttribute : column ∉ node.attributes.keys)
    (hKey : column ≠ node.keyColumn schema) :
    (node.cell? schema false column).getD .null =
      if column = "v_type" then
        (node.type?.map .string).getD .null
      else
        .null := by
  have hNone :=
    (Entries.lookup_eq_none_iff column node.attributes).mpr hAttribute
  unfold cell?
  simp only [hNone, hKey, decide_false, Bool.false_and,
    Bool.or_self, Bool.false_eq_true, if_false, typeColumn]
  by_cases hType : column = "v_type" <;> simp [hType]

end NodeRecord

namespace Response

/- Without a projection each column shows what the node has. -/
theorem get?_nodeTable_none
    {schema : Schema}
    {response : Response}
    {i : Nat}
    {node : NodeRecord}
    (hNode : (NodeRecord.all response)[i]? = some node)
    {column : String}
    (hColumn : column ∈ (response.nodeTable schema none).columns) :
    (response.nodeTable schema none).get? i column =
      some ((node.cell? schema false column).getD .null) := by
  have hNodup : (response.nodeTable schema none).columns.Nodup := by
    rw [columns_nodeTable]
    exact NodeRecord.nodup_columns schema _
  have hOnce := List.count_eq_one_of_mem hNodup hColumn
  unfold Table.get?
  rw [rows_nodeTable, List.getElem?_map, hNode]
  exact get?_align_row schema false node hOnce

/-
  Without a projection nothing of a record of a node is lost, and
  nothing of another one is shown in its row.  Each record of a
  node describes a node.  Each attribute is under its own name.
  The id is in the column of the key, unless that is the name of
  an attribute.  All other columns are null, but for one that is
  named as that of the types.
-/
theorem nodeTable_whole
    (schema : Schema)
    (response : Response)
    {i : Nat}
    {record : Json}
    (hRecord :
      (response.records.filter
          (fun record => Record.IsNode record))[i]? =
        some record) :
    ∃ fields node,
      record = .object fields ∧
        NodeRecord.Describes node fields ∧
        (∀ name value,
          node.attributes.lookup name = some value →
            name ∈ (response.nodeTable schema none).columns ∧
              (response.nodeTable schema none).get? i name =
                some value) ∧
        ∃ key,
          node.KeyedBy schema key ∧
            key ∈ (response.nodeTable schema none).columns ∧
            (response.nodeTable schema none).get? i key =
              some ((node.attributes.lookup key).getD
                (.string node.id)) ∧
            ∀ column ∈ (response.nodeTable schema none).columns,
              column ∉ node.attributes.keys → column ≠ key →
                (response.nodeTable schema none).get? i column =
                  some (if column = "v_type" then
                    (node.type?.map .string).getD .null
                  else
                    .null) := by
  rcases exists_getElem?_of_forall₂
      (NodeRecord.forall₂_all response) hRecord with
    ⟨node, hNode, fields, hFields, hDescribes⟩
  have hMem : node ∈ NodeRecord.all response :=
    List.mem_of_getElem? hNode
  have hColumns (column : String) :
      column ∈ (response.nodeTable schema none).columns ↔
        (∃ node ∈ NodeRecord.all response,
            node.KeyedBy schema column) ∨
          ∃ node ∈ NodeRecord.all response,
            column ∈ node.attributes.keys := by
    rw [columns_nodeTable]
    exact NodeRecord.mem_columns_iff
  refine ⟨fields, node, hFields, hDescribes, ?_, ?_⟩
  · intro name value hValue
    have hListed : name ∈ node.attributes.keys :=
      List.mem_map_of_mem (Entries.mem_of_lookup hValue)
    have hColumn := (hColumns name).mpr
      (Or.inr ⟨node, hMem, hListed⟩)
    refine ⟨hColumn, ?_⟩
    rw [get?_nodeTable_none hNode hColumn]
    unfold NodeRecord.cell?
    rw [hValue]
    rfl
  · have hKeyed : node.KeyedBy schema (node.keyColumn schema) :=
      NodeRecord.keyedBy_iff.mpr rfl
    have hColumn := (hColumns (node.keyColumn schema)).mpr
      (Or.inl ⟨node, hMem, hKeyed⟩)
    refine ⟨node.keyColumn schema, hKeyed, hColumn, ?_, ?_⟩
    · rw [get?_nodeTable_none hNode hColumn, NodeRecord.cell?_key]
    · intro column hOther hAttribute hKey
      rw [get?_nodeTable_none hNode hOther,
        NodeRecord.cell?_other hAttribute hKey]

/-
  The user has an attribute where others have their ids, and the
  stranger's rank is not shown for the user.
-/
theorem nodeTable_whole_strangers :
    (strangers.nodeTable .users none).columns =
        ["id", "v_id", "name", "rank"] ∧
      (strangers.nodeTable .users none).get? 0 "v_id" =
        some (.int 7) ∧
      (strangers.nodeTable .users none).get? 0 "rank" = some .null ∧
      (strangers.nodeTable .users none).get? 1 "v_id" =
        some (.string "n2") := by
  have hUser :=
    nodeTable_whole .users strangers (i := 0) rfl
  have hStranger :=
    nodeTable_whole .users strangers (i := 1) rfl
  rcases hUser with
    ⟨_, user, hFields, hDescribes, hUser, key, hKey, _, _, hOthers⟩
  rcases hStranger with
    ⟨_, other, hItem, hDescribed, _, column, hColumn, _, hId, _⟩
  -- the records are read, and so known to be those of the example
  have hUserRead := NodeRecord.ofJson?_eq_some_iff.mpr
    ⟨_, hFields, hDescribes⟩
  have hOtherRead := NodeRecord.ofJson?_eq_some_iff.mpr
    ⟨_, hItem, hDescribed⟩
  cases hUserRead
  cases hOtherRead
  rw [NodeRecord.keyedBy_iff] at hKey hColumn
  subst hKey
  subst hColumn
  refine ⟨rfl, (hUser "v_id" (.int 7) rfl).2, ?_, hId⟩
  exact hOthers "rank" (by decide) (by decide) (by decide)

end Response

end GraphClient
