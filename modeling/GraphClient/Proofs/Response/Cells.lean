import GraphClient.Proofs.Response.Edges
/-
  The cells of edge tables.

  Key theorems include:
    * `GraphClient.EdgeRecord.mem_otherColumns`
    * `GraphClient.Response.get?_edgeTable`
    * `GraphClient.Response.get?_edgeTable_own_iff`

  Beside its ends an edge shows its attributes, and where it has
  no attribute of the name of a column, the field of that name.
  Fields are meant for names that were asked for.  A column that
  was not asked for is there because some edge has an attribute
  of its name, and another edge is shown as having it too if it
  has such a field.
-/

------------------------------------------------------------
-- Columns beside the Ends
------------------------------------------------------------

namespace GraphClient

namespace EdgeRecord

/- What is no end is one of the other columns. -/
theorem mem_otherColumns
    {edges : List EdgeRecord}
    {projection? : Option (List String)}
    {column : String}
    (hColumn : column ∈ columns edges projection?)
    (hSource : column ≠ "from_id")
    (hTarget : column ≠ "to_id") :
    column ∈ otherColumns edges projection? := by
  unfold otherColumns
  rw [columns_eq] at hColumn ⊢
  rcases List.mem_cons.mp hColumn with hEnd | hRest
  · exact (hSource hEnd).elim
  · rcases List.mem_cons.mp hRest with hEnd | hOther
    · exact (hTarget hEnd).elim
    · exact hOther

/- A row has what the edge has for its other columns. -/
theorem get?_row_of_mem
    (edge : EdgeRecord)
    {others : List String}
    {column : String}
    (hColumn : column ∈ others)
    (hSource : column ≠ "from_id")
    (hTarget : column ≠ "to_id") :
    (edge.row others).get? column = edge.cell? column := by
  have hFrom : ¬ "from_id" = column := fun hEq => hSource hEq.symm
  have hTo : ¬ "to_id" = column := fun hEq => hTarget hEq.symm
  unfold row sourceColumn targetColumn
  rw [OrderedMap.get?_ofList]
  simp only [Entries.last?, Entries.last?_filterMap,
    if_pos hColumn, if_neg hFrom, if_neg hTo]
  cases edge.cell? column <;> rfl

/- An edge has its attributes, and its fields where it has none. -/
theorem cell?_eq
    (edge : EdgeRecord)
    (column : String) :
    edge.cell? column =
      (edge.attributes.lookup column).or
        (edge.fields.lookup column) := by
  unfold cell?
  cases edge.attributes.lookup column <;> rfl

end EdgeRecord

end GraphClient

------------------------------------------------------------
-- Cells
------------------------------------------------------------

namespace GraphClient

/- Within the limit nothing is cut off. -/
theorem getElem?_takeLimit
    {α : Type}
    {limit? : Option Nat}
    {i : Nat}
    (hLimit : ∀ n ∈ limit?, i < n)
    (items : List α) :
    (takeLimit limit? items)[i]? = items[i]? := by
  cases limit? with
  | none => rfl
  | some n => exact List.getElem?_take_of_lt (hLimit n rfl)

namespace Response

/- Under a column beside the ends an edge shows what it has. -/
theorem get?_edgeTable
    {response : Response}
    {projection? : Option (List String)}
    {limit? : Option Nat}
    {i : Nat}
    {edge : EdgeRecord}
    (hEdge : (EdgeRecord.all response)[i]? = some edge)
    (hLimit : ∀ n ∈ limit?, i < n)
    {column : String}
    (hColumn :
      column ∈
        EdgeRecord.columns (EdgeRecord.all response) projection?)
    (hSource : column ≠ "from_id")
    (hTarget : column ≠ "to_id") :
    (response.edgeTable projection? limit?).get? i column =
      some ((edge.cell? column).getD .null) := by
  have hOnce :=
    List.count_eq_one_of_mem
      (EdgeRecord.nodup_columns (EdgeRecord.all response) projection?)
      hColumn
  have hOther :=
    EdgeRecord.mem_otherColumns hColumn hSource hTarget
  unfold Table.get?
  rw [rows_edgeTable, List.getElem?_map,
    getElem?_takeLimit hLimit, hEdge]
  simp only [Option.map_some, Option.bind_some]
  rw [Table.get?_align, if_pos hColumn, if_pos hOnce,
    edge.get?_row_of_mem hOther hSource hTarget]

/-
  When nothing is asked for, the row of an edge has its attribute
  under each column beside the ends, or else its field of that
  name.  So it shows the attributes of the edge, and null for
  what is none of them, just where the edge has the attribute or
  has no such field with a value.
-/
theorem get?_edgeTable_own_iff
    (response : Response)
    (limit? : Option Nat)
    {i : Nat}
    {record : Json}
    (hRecord :
      (response.records.filter
          (fun record => Record.IsEdge record))[i]? =
        some record)
    (hLimit : ∀ n ∈ limit?, i < n) :
    ∃ fields edge,
      record = .object fields ∧
        EdgeRecord.Describes edge fields ∧
        ∀ column ∈ (response.edgeTable none limit?).columns,
          column ≠ "from_id" → column ≠ "to_id" →
            (response.edgeTable none limit?).get? i column =
                some (((edge.attributes.lookup column).or
                  (Entries.lookup column fields)).getD .null) ∧
              ((response.edgeTable none limit?).get? i column =
                  some ((edge.attributes.lookup column).getD
                    .null) ↔
                column ∈ edge.attributes.keys ∨
                  (Entries.lookup column fields).getD .null =
                    .null) := by
  rcases exists_getElem?_of_forall₂
      (EdgeRecord.forall₂_all response) hRecord with
    ⟨edge, hEdge, fields, hFields, hDescribes⟩
  refine ⟨fields, edge, hFields, hDescribes, ?_⟩
  intro column hColumn hSource hTarget
  -- some edge is there, so that the columns are not left out
  have hSome : (EdgeRecord.all response).isEmpty = false :=
    List.isEmpty_eq_false_iff.mpr
      (List.ne_nil_of_mem (List.mem_of_getElem? hEdge))
  rw [columns_edgeTable, hSome] at hColumn
  have hCell := get?_edgeTable hEdge hLimit hColumn hSource hTarget
  rw [edge.cell?_eq, hDescribes.same] at hCell
  refine ⟨hCell, ?_⟩
  rw [hCell]
  cases hAttribute : edge.attributes.lookup column with
  | some value =>
      have hOwn : column ∈ edge.attributes.keys :=
        List.mem_map_of_mem (Entries.mem_of_lookup hAttribute)
      simp [hOwn]
  | none =>
      have hNotOwn :=
        (Entries.lookup_eq_none_iff column edge.attributes).mp
          hAttribute
      simp [hNotOwn]

end Response

end GraphClient

------------------------------------------------------------
-- Attributes with the Names of Fields
------------------------------------------------------------

namespace GraphClient

namespace Response

/-
  Two edges of different types.  The second type has an attribute
  with the name of the field for the type.
-/
def acquaintances : Response :=
  [[("Edges",
    .array
      [.object
        [("attributes", .object []),
          ("e_type", .string "Knows"),
          ("from_id", .string "ann"),
          ("to_id", .string "bob")],
      .object
        [("attributes", .object [("e_type", .string "Friend")]),
          ("e_type", .string "Imports"),
          ("from_id", .string "ann"),
          ("to_id", .string "cy")]])]]

/- The first edge is shown with an attribute that it lacks. -/
theorem edgeTable_foreign_attribute :
    ((EdgeRecord.all acquaintances).map (fun edge =>
        (edge.attributes.lookup "e_type").getD .null)) =
        [.null, .string "Friend"] ∧
      (acquaintances.edgeTable none none).columns =
        ["from_id", "to_id", "e_type"] ∧
      (acquaintances.edgeTable none none).get? 0 "e_type" =
        some (.string "Knows") :=
  ⟨rfl, rfl, rfl⟩

/- So it is with a limit, and the second shows its own. -/
theorem get?_edgeTable_own_iff_acquaintances :
    (acquaintances.edgeTable none (some 2)).get? 0 "e_type" ≠
        some .null ∧
      (acquaintances.edgeTable none (some 2)).get? 1 "e_type" =
        some (.string "Friend") := by
  have hKnows :=
    get?_edgeTable_own_iff acquaintances (some 2) (i := 0) rfl
      (by simp)
  have hImports :=
    get?_edgeTable_own_iff acquaintances (some 2) (i := 1) rfl
      (by simp)
  rcases hKnows with ⟨_, edge, hFields, hDescribes, hCells⟩
  rcases hImports with ⟨_, other, hItem, hDescribed, hOthers⟩
  have hEdge := EdgeRecord.ofJson?_eq_some_iff.mpr
    ⟨_, hFields, hDescribes⟩
  have hOther := EdgeRecord.ofJson?_eq_some_iff.mpr
    ⟨_, hItem, hDescribed⟩
  cases hFields
  cases hItem
  cases hEdge
  cases hOther
  have hColumn :
      "e_type" ∈ (acquaintances.edgeTable none (some 2)).columns := by
    decide
  constructor
  · intro hNull
    have hOwn :=
      (hCells "e_type" hColumn (by decide) (by decide)).2.mp hNull
    rcases hOwn with hMem | hField
    · cases hMem
    · cases hField
  · exact (hOthers "e_type" hColumn (by decide) (by decide)).1

end Response

end GraphClient
