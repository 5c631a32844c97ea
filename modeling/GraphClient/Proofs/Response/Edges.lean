import GraphClient.Proofs.Response.Records
import GraphClient.Proofs.Table.Rows
import GraphClient.Response.Tables
import Mathlib.Data.List.Nodup
/-
  The tables of edges, and the keys of edges.

  Key theorems include:
    * `GraphClient.EdgeRecord.columns_eq`
    * `GraphClient.Response.rows_edgeTable`
    * `GraphClient.Response.edgeTable_agrees`

  A table of edges has a row for each key, in the same order,
  and each row shows the two ends of its key.  A limit cuts off
  rows, but the columns are those of all edges.
-/

------------------------------------------------------------
-- Columns
------------------------------------------------------------

namespace GraphClient

namespace EdgeRecord

/- The columns are the ends, and then the other names. -/
theorem columns_eq
    (edges : List EdgeRecord)
    (projection? : Option (List String)) :
    columns edges projection? =
      "from_id" :: "to_id" ::
        ((projection?.getD
            (edges.flatMap (fun edge => edge.attributes.keys))).filter
          (fun name => name ≠ "from_id" ∧ name ≠ "to_id")).eraseDups := by
  unfold columns
  rw [Columns.addAll_eq]
  simp [endColumns, sourceColumn, targetColumn]

/- No column is there twice. -/
theorem nodup_columns
    (edges : List EdgeRecord)
    (projection? : Option (List String)) :
    (columns edges projection?).Nodup :=
  Columns.nodup_addAll (by decide) _

/- The columns without those of the ends. -/
def otherColumns
    (edges : List EdgeRecord)
    (projection? : Option (List String)) :
    List String :=
  (columns edges projection?).drop endColumns.length

/- The ends are not among the other columns. -/
theorem ends_not_mem_otherColumns
    (edges : List EdgeRecord)
    (projection? : Option (List String)) :
    "from_id" ∉ otherColumns edges projection? ∧
      "to_id" ∉ otherColumns edges projection? := by
  unfold otherColumns
  rw [columns_eq]
  simp [endColumns]

/- Other columns do not hide the ends of an edge. -/
theorem get?_row_ends
    (edge : EdgeRecord)
    {others : List String}
    (hOthers : "from_id" ∉ others ∧ "to_id" ∉ others) :
    (edge.row others).get? "from_id" = some (.string edge.source) ∧
      (edge.row others).get? "to_id" =
        some (.string edge.target) := by
  unfold row sourceColumn targetColumn
  simp [OrderedMap.get?_ofList, Entries.last?,
    Entries.last?_filterMap, hOthers]

end EdgeRecord

end GraphClient

------------------------------------------------------------
-- Rows
------------------------------------------------------------

namespace GraphClient

namespace Response

/- Without edges and names there are no columns. -/
theorem columns_edgeTable
    (response : Response)
    (projection? : Option (List String))
    (limit? : Option Nat) :
    (response.edgeTable projection? limit?).columns =
      if (EdgeRecord.all response).isEmpty && projection?.isNone then
        []
      else
        EdgeRecord.columns (EdgeRecord.all response) projection? := by
  simp only [edgeTable]
  split
  · rfl
  · exact Table.columns_pushAll _ _

/- There is a row for each edge up to the limit, in order. -/
theorem rows_edgeTable
    (response : Response)
    (projection? : Option (List String))
    (limit? : Option Nat) :
    (response.edgeTable projection? limit?).rows =
      (takeLimit limit? (EdgeRecord.all response)).map (fun edge =>
        Table.align
          (EdgeRecord.columns (EdgeRecord.all response) projection?)
          (edge.row (EdgeRecord.otherColumns
            (EdgeRecord.all response) projection?))) := by
  simp only [edgeTable]
  split
  · next hNone =>
      rw [Bool.and_eq_true, List.isEmpty_iff] at hNone
      have hTake :
          takeLimit limit? ([] : List EdgeRecord) = [] := by
        cases limit? <;> simp [takeLimit]
      rw [hNone.1, hTake]
      rfl
  · rw [Table.rows_pushAll, List.map_map]
    rfl

/- The row of an edge shows its ends. -/
theorem get?_align_ends
    (edges : List EdgeRecord)
    (projection? : Option (List String))
    (edge : EdgeRecord) :
    (Table.align (EdgeRecord.columns edges projection?)
          (edge.row (EdgeRecord.otherColumns edges
            projection?))).get? "from_id" =
        some (.string edge.source) ∧
      (Table.align (EdgeRecord.columns edges projection?)
          (edge.row (EdgeRecord.otherColumns edges
            projection?))).get? "to_id" =
        some (.string edge.target) := by
  have hEnds :=
    edge.get?_row_ends
      (EdgeRecord.ends_not_mem_otherColumns edges projection?)
  have hListed :
      "from_id" ∈ EdgeRecord.columns edges projection? ∧
        "to_id" ∈ EdgeRecord.columns edges projection? := by
    rw [EdgeRecord.columns_eq]
    simp
  have hNodup := EdgeRecord.nodup_columns edges projection?
  rw [Table.get?_align, Table.get?_align, if_pos hListed.1,
    if_pos hListed.2,
    if_pos (List.count_eq_one_of_mem hNodup hListed.1),
    if_pos (List.count_eq_one_of_mem hNodup hListed.2),
    hEnds.1, hEnds.2]
  exact ⟨rfl, rfl⟩

end Response

end GraphClient

------------------------------------------------------------
-- Agreement
------------------------------------------------------------

namespace GraphClient

namespace Response

/- A response without records of edges has no edges. -/
theorem isEmpty_edges_iff
    (response : Response) :
    (EdgeRecord.all response).isEmpty = true ↔
      ∀ record ∈ response.records, ¬ Record.IsEdge record := by
  simp only [List.isEmpty_iff, EdgeRecord.all,
    List.filterMap_eq_nil_iff, Record.isEdge_iff,
    Option.eq_none_iff_forall_ne_some, not_exists, ne_eq]

/-
  A table with a limit has the columns of the table without one,
  and its first rows.  Each record of an edge describes an edge,
  with its ends and its attributes, and has a key with its ends.
  The whole table has a row for each key, in the same order, with
  the ends of the key, whatever attributes the edge has.  The
  columns are those of the ends, and then the other names that
  are asked for, or the attributes of the edges as they are first
  seen; but there are none when nothing is asked for and no
  record is one of an edge.
-/
theorem edgeTable_agrees
    (schema : Schema)
    (response : Response)
    (projection? : Option (List String))
    (n : Nat) :
    (response.edgeTable projection? (some n)).columns =
        (response.edgeTable projection? none).columns ∧
      (response.edgeTable projection? (some n)).rows =
        (response.edgeTable projection? none).rows.take n ∧
      List.Forall₂
        (fun record edge =>
          ∃ fields, record = .object fields ∧
            EdgeRecord.Describes edge fields)
        (response.records.filter (fun record => Record.IsEdge record))
        (EdgeRecord.all response) ∧
      List.Forall₂
        (fun record key =>
          Record.EndReads record "from_id" (EdgeKey.source key) ∧
            Record.EndReads record "to_id" (EdgeKey.target key))
        (response.records.filter (fun record => Record.IsEdge record))
        (response.edgeKeys schema) ∧
      List.Forall₂
        (fun key row =>
          OrderedMap.get? row "from_id" =
              some (Json.string (EdgeKey.source key)) ∧
            OrderedMap.get? row "to_id" =
              some (Json.string (EdgeKey.target key)))
        (response.edgeKeys schema)
        (response.edgeTable projection? none).rows ∧
      (response.edgeTable projection? none).columns =
        (if projection? = none ∧
            ∀ record ∈ response.records, ¬ Record.IsEdge record then
          []
        else
          "from_id" :: "to_id" ::
            ((projection?.getD
                ((EdgeRecord.all response).flatMap
                  (fun edge => edge.attributes.keys))).filter
              (fun name =>
                name ≠ "from_id" ∧ name ≠ "to_id")).eraseDups) ∧
      (response.edgeTable projection? none).columns.Nodup := by
  have hColumns := columns_edgeTable response projection? none
  have hEdges := EdgeRecord.forall₂_all response
  refine ⟨?_, ?_, hEdges, ?_, ?_, ?_, ?_⟩
  · rw [hColumns, columns_edgeTable]
  · rw [rows_edgeTable, rows_edgeTable]
    exact List.map_take
  · rw [edgeKeys, List.forall₂_map_right_iff]
    apply hEdges.imp
    rintro record edge ⟨fields, rfl, hDescribes⟩
    exact ⟨hDescribes.source, hDescribes.target⟩
  · rw [rows_edgeTable, edgeKeys, List.forall₂_map_left_iff,
      List.forall₂_map_right_iff]
    exact List.forall₂_same.mpr (fun edge _ =>
      get?_align_ends (EdgeRecord.all response) projection? edge)
  · rw [hColumns]
    apply if_congr _ rfl (EdgeRecord.columns_eq _ projection?)
    rw [Bool.and_eq_true, isEmpty_edges_iff, Option.isNone_iff_eq_none]
    exact and_comm
  · rw [hColumns]
    split
    · exact List.nodup_nil
    · exact EdgeRecord.nodup_columns _ projection?

/- A ferry from the north, one from port 2, and neither of them. -/
def ferries : Response :=
  [[("Ferries", .array
    [.object
        [("attributes",
            .object
              [("from_id", .string "north"), ("minutes", .int 20)]),
          ("from_id", .int 1),
          ("to_id", .string "2")],
      .object [("from_id", .null), ("to_id", .string "3")],
      .object
        [("attributes",
            .object [("price", .int 5), ("minutes", .int 35)]),
          ("from_id", .string "2"),
          ("to_id", .string "3")]])]]

/-
  With the first ferry alone there is a column for the price of
  the second one, and where it starts from is no attribute.
-/
theorem edgeTable_agrees_ferries :
    (ferries.edgeTable none (some 1)).columns =
        ["from_id", "to_id", "minutes", "price"] ∧
      (ferries.edgeTable none (some 1)).rows.length = 1 ∧
      ∃ row rest,
        (ferries.edgeTable none none).rows = row :: rest ∧
          row.get? "from_id" = some (.string "1") ∧
          row.get? "to_id" = some (.string "2") := by
  rcases edgeTable_agrees ⟨"Sea", .empty, .empty, rfl⟩ ferries none 1
    with ⟨hSame, hRows, _, hKeys, hEnds, hColumns, _⟩
  have hEdge :
      ¬ (none = (none : Option (List String)) ∧
        ∀ record ∈ ferries.records, ¬ Record.IsEdge record) := by
    decide
  rw [if_neg hEdge] at hColumns
  refine ⟨hSame.trans hColumns, ?_, ?_⟩
  · rw [hRows, List.length_take, ← hEnds.length_eq,
      ← hKeys.length_eq]
    rfl
  · cases hKeys with
    | cons hKey _ =>
      cases hEnds with
      | cons hRow _ => exact ⟨_, _, rfl, hRow⟩

end Response

end GraphClient
