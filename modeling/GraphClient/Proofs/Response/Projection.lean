import GraphClient.Proofs.Schema.Accepted
import GraphClient.Proofs.Table.Rows
import GraphClient.Response.Tables
/-
  The cells of projected node tables.

  Key definitions include:
    * `GraphClient.NodeRecord.KeyedBy`
    * `GraphClient.NodeRecord.valueUnder`

  Key theorems include:
    * `GraphClient.NodeRecord.cell?_projected`
    * `GraphClient.Response.get?_nodeTable`

  A projected column is to hold what the record of a node has
  under its name: an attribute, the id, the type, or nothing.
  It does so exactly when the projection lists the column once
  or there is nothing to be held.
-/

------------------------------------------------------------
-- Values under Columns
------------------------------------------------------------

namespace GraphClient

namespace NodeRecord

/- The column names the primary key of the type of a node. -/
def IsKey
    (schema : Schema)
    (node : NodeRecord)
    (column : String) :
    Prop :=
  ∃ type ∈ node.type?, schema.primaryKey? type = some column

instance
    (schema : Schema)
    (node : NodeRecord)
    (column : String) :
    Decidable (node.IsKey schema column) := by
  unfold IsKey
  infer_instance

/-
  The column for the id of a node: the primary key of its type,
  or `v_id` when it has no type that is defined.
-/
def KeyedBy
    (schema : Schema)
    (node : NodeRecord)
    (column : String) :
    Prop :=
  node.IsKey schema column ∨
    ((∀ type ∈ node.type?, schema.primaryKey? type = none) ∧
      column = "v_id")

/- Each node has one column for its id. -/
theorem keyedBy_iff
    {schema : Schema}
    {node : NodeRecord}
    {column : String} :
    node.KeyedBy schema column ↔ column = node.keyColumn schema := by
  unfold KeyedBy IsKey keyColumn
  cases hType : node.type? with
  | none => simp [idColumn]
  | some type =>
      cases hPrimary : schema.primaryKey? type with
      | none => simp [idColumn, hPrimary]
      | some key => simp [hPrimary, eq_comm]

/-
  What a node has under a column: an attribute of that name, or
  else its id or its type, or else nothing.
-/
def valueUnder
    (schema : Schema)
    (node : NodeRecord)
    (column : String) :
    Json :=
  match node.attributes.lookup column with
  | some value => value
  | none =>
      if node.IsKey schema column ∨ column = "v_id" then
        .string node.id
      else if column = "v_type" then
        (node.type?.map .string).getD .null
      else
        .null

/- Under a projection a node has what is under the column. -/
theorem cell?_projected
    (schema : Schema)
    (node : NodeRecord)
    (column : String) :
    (node.cell? schema true column).getD .null =
      node.valueUnder schema column := by
  unfold cell? valueUnder
  cases hAttribute : node.attributes.lookup column with
  | some value => rfl
  | none =>
      have hKey :
          (column = node.keyColumn schema ∨ column = idColumn) ↔
            (node.IsKey schema column ∨ column = "v_id") := by
        rw [← keyedBy_iff]
        constructor
        · rintro ((hKey | ⟨_, rfl⟩) | rfl)
          · exact Or.inl hKey
          · exact Or.inr rfl
          · exact Or.inr rfl
        · exact Or.imp_left Or.inl
      simp only [Bool.true_and, Bool.or_eq_true, decide_eq_true_eq,
        hKey]
      by_cases hId : node.IsKey schema column ∨ column = "v_id"
      · simp only [hId, if_true, Option.getD_some]
      · simp only [hId, if_false]
        by_cases hType : column = "v_type"
        · simp only [hType, typeColumn, if_true]
        · simp only [hType, typeColumn, if_false, Option.getD_none]

/- A row has what the node has for its columns. -/
theorem get?_row_of_mem
    (schema : Schema)
    (isProjected : Bool)
    (node : NodeRecord)
    {columns : List String}
    {column : String}
    (hColumn : column ∈ columns) :
    (node.row schema isProjected columns).get? column =
      node.cell? schema isProjected column := by
  unfold row
  rw [OrderedMap.get?_ofList, Entries.last?_filterMap,
    if_pos hColumn]

/- The row of a projection has what is under its columns. -/
theorem get?_row
    (schema : Schema)
    (columns : List String)
    (node : NodeRecord)
    {column : String}
    (hColumn : column ∈ columns) :
    ((node.row schema true columns).get? column).getD .null =
      node.valueUnder schema column := by
  rw [get?_row_of_mem schema true node hColumn]
  exact cell?_projected schema node column

end NodeRecord

end GraphClient

------------------------------------------------------------
-- Cells
------------------------------------------------------------

namespace GraphClient

namespace Response

/-
  A projected column that is listed once holds what its nodes
  have under it; one that is listed more often holds nothing.
  So a cell is what it is to be when the column is listed once
  or there is nothing to be held, and not otherwise.
-/
theorem get?_nodeTable
    (schema : Schema)
    (response : Response)
    (projection : List String)
    {i : Nat}
    {node : NodeRecord}
    (hNode : (NodeRecord.all response)[i]? = some node)
    {column : String}
    (hColumn : column ∈ projection) :
    (response.nodeTable schema (some projection)).get? i column =
        some (if projection.count column = 1 then
          node.valueUnder schema column
        else
          .null) ∧
      ((response.nodeTable schema (some projection)).get? i column =
          some (node.valueUnder schema column) ↔
        projection.count column = 1 ∨
          node.valueUnder schema column = .null) := by
  have hCell :
      (response.nodeTable schema (some projection)).get? i column =
        some (if projection.count column = 1 then
          node.valueUnder schema column
        else
          .null) := by
    unfold nodeTable
    simp only [Option.getD_some, Option.isSome_some]
    rw [Table.get?_pushAll, List.getElem?_map, hNode]
    simp only [Option.map_some, Option.bind_some]
    rw [Table.get?_align, if_pos hColumn,
      NodeRecord.get?_row schema projection node hColumn]
  refine ⟨hCell, ?_⟩
  rw [hCell]
  by_cases hOnce : projection.count column = 1
  · simp [hOnce]
  · simp [hOnce, eq_comm]

end Response

end GraphClient

------------------------------------------------------------
-- Columns Listed Twice
------------------------------------------------------------

namespace GraphClient

/- Users have names, and are known by their ids. -/
def NodeType.user : NodeType where
  primaryKey := "id"
  attributes :=
    .ofList [("id", .plain .string), ("name", .plain .string)]
  vectors := .empty
  accepted := check_eq_ok_iff.mpr (by decide +kernel)

/- The schema of a graph of users. -/
def Schema.users : Schema where
  graphName := "G"
  nodes := .ofList [("User", .user)]
  edges := .empty
  accepted := rfl

namespace Response

/- The response with one user. -/
def oneUser : Response :=
  [[("Nodes",
    .array
      [.object
        [("attributes",
            .object [("id", .string "n1"), ("name", .string "A")]),
          ("v_id", .string "n1"),
          ("v_type", .string "User")]])]]

/- A name that is listed twice is lost. -/
theorem nodeTable_name_twice :
    ((NodeRecord.all oneUser).map (fun node =>
        node.valueUnder .users "name")) = [.string "A"] ∧
      (oneUser.nodeTable .users (some ["name", "name"])).get? 0
        "name" = some .null :=
  ⟨rfl, rfl⟩

/- Beside a name that is listed twice, the id is not lost. -/
theorem get?_nodeTable_oneUser :
    (oneUser.nodeTable .users (some ["name", "v_id", "name"])).get?
        0 "v_id" = some (.string "n1") ∧
      (oneUser.nodeTable .users (some ["name", "v_id", "name"])).get?
        0 "name" = some .null := by
  have hId :=
    get?_nodeTable .users oneUser ["name", "v_id", "name"]
      (i := 0) rfl (by decide : "v_id" ∈ ["name", "v_id", "name"])
  have hName :=
    get?_nodeTable .users oneUser ["name", "v_id", "name"]
      (i := 0) rfl (by decide : "name" ∈ ["name", "v_id", "name"])
  exact ⟨hId.1, hName.1⟩

end Response

end GraphClient
