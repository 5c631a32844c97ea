import GraphClient.Proofs.Schema.Spelling
/-
  The two ways to make a schema.

  Key definitions include:
    * `GraphClient.Value.IsSpellable`
    * `GraphClient.SchemaOutline.EachDefault`
    * `GraphClient.SchemaOutline.toJson`

  Key theorems include:
    * `GraphClient.SchemaOutline.spelledBy_text`
    * `GraphClient.SchemaOutline.construction_iff_wellFormed`

  A schema is built from its types, or read from a document that
  spells it.  Both succeed for the well-formed definitions and
  for no others, and with the same schema.  There is such a
  document for every definition whose defaults JSON can spell.
-/

------------------------------------------------------------
-- Written Attributes
------------------------------------------------------------

namespace GraphClient

open Json (Draft)
open Json.Draft (Lists given keyed)

/- Fields that are written one after the other are listed. -/
theorem Json.lists_draftMembers
    (names : List String)
    (fields : Entries Json) :
    Lists names
      (given
        (fields.map (fun field => (field.1, some field.2.draft))))
      (Json.draftMembers fields) := by
  refine ⟨[], List.Perm.of_eq ?_, List.forall_mem_nil _⟩
  rw [draftMembers_eq_map, List.append_nil]
  unfold keyed given
  rw [List.filterMap_map]
  simp [Function.comp_def]

/- A value that JSON can spell. -/
def Value.IsSpellable : Value → Prop
| .float x => x.ReadsBack
| .dateTime _ => False
| _ => True

instance : DecidablePred Value.IsSpellable
| .bool _ => isTrue trivial
| .int _ => isTrue trivial
| .float x => inferInstanceAs (Decidable x.ReadsBack)
| .string _ => isTrue trivial
| .dateTime _ => isFalse id

/- A written value spells the value. -/
theorem Value.spelled_toJson
    {v : Value}
    (hSpellable : v.IsSpellable) :
    Spelled v.toJson.draft v := by
  cases v with
  | bool b => exact .bool b
  | int n => exact .int (value?_toInt n)
  | float x =>
      rcases Binary64.readsBack_iff.mp hSpellable with
        ⟨hFinite, hValue⟩
      rw [toJson, Json.ofFloat, if_pos hFinite, Json.draft,
        Json.floatDraft, if_pos hFinite]
      exact .float hValue
  | string s => exact .string s
  | dateTime t => exact hSpellable.elim

/- A written attribute spells the attribute. -/
theorem AttributeType.spelled_toJson
    {type : AttributeType}
    (hDefault : type.EachDefault Value.IsSpellable) :
    Spelled type.toJson.draft type := by
  rcases type with ⟨dataType, default?⟩
  cases default? with
  | none =>
      apply Spelled.full none
      · exact Json.lists_draftMembers _
          [("data_type", .string dataType.keyword)]
      · exact rfl
  | some value =>
      apply Spelled.full (some value.toJson.draft)
      · exact Json.lists_draftMembers _ _
      · exact .value (Value.spelled_toJson (hDefault value rfl))

/- A written vector spells the vector. -/
theorem VectorType.spelled_toJson
    (type : VectorType) :
    Spelled type.toJson.draft type := by
  apply Spelled.full (some _) (some _) (some _)
  · exact Json.lists_draftMembers _ _
  · exact value?_dimension type.dimension
  · exact rfl
  · exact rfl
  · exact rfl

end GraphClient

------------------------------------------------------------
-- Written Definitions
------------------------------------------------------------

namespace GraphClient

open Json (Draft)

/- A written map spells the map, if its values are spelled. -/
theorem OrderedMap.spelled_toJson
    {α : Type}
    {P : Draft → α → Prop}
    {item : α → Json}
    {m : OrderedMap α}
    (hItems :
      ∀ entry ∈ m.entries, P (item entry.2).draft entry.2) :
    OrderedMap.Spelled P (m.toJson item).draft m := by
  refine ⟨_, rfl, ?_⟩
  rw [Json.draftMembers_eq_map, List.map_map]
  apply List.forall₂_map_left_iff.mpr
  apply List.forall₂_same.mpr
  exact fun entry hMem => ⟨rfl, hItems entry hMem⟩

namespace NodeOutline

/- The JSON of a node type. -/
def toJson
    (o : NodeOutline) :
    Json :=
  .object
    [("primary_key", .string o.primaryKey),
      ("attributes", o.attributes.toJson AttributeType.toJson),
      ("vector_attributes", o.vectors.toJson VectorType.toJson)]

/- A written node type spells the node type. -/
theorem spelled_toJson
    {o : NodeOutline}
    (hDefaults :
      ∀ entry ∈ o.attributes.entries,
        entry.2.EachDefault Value.IsSpellable) :
    Spelled o.toJson.draft o := by
  apply Spelled.object (some _) (some _) (some _)
  · exact Json.lists_draftMembers _ _
  · exact rfl
  · exact OrderedMap.spelled_toJson (fun entry hMem =>
      AttributeType.spelled_toJson (hDefaults entry hMem))
  · exact OrderedMap.spelled_toJson (fun entry _ =>
      VectorType.spelled_toJson entry.2)

end NodeOutline

namespace EdgeOutline

/- The JSON of an edge type. -/
def toJson
    (o : EdgeOutline) :
    Json :=
  .object
    [("is_directed_edge", .bool o.isDirected),
      ("from_node_type", .string o.source),
      ("to_node_type", .string o.target),
      ("discriminator", Json.strings o.discriminator),
      ("attributes", o.attributes.toJson AttributeType.toJson)]

/- A written edge type spells the edge type. -/
theorem spelled_toJson
    {o : EdgeOutline}
    (hDefaults :
      ∀ entry ∈ o.attributes.entries,
        entry.2.EachDefault Value.IsSpellable) :
    Spelled o.toJson.draft o := by
  apply Spelled.object (some _) (some _)
  · exact Json.lists_draftMembers _ _
  · have hList := DiscriminatorSpelled.list o.discriminator
    rw [← Json.drafts_map_string] at hList
    exact hList
  · exact OrderedMap.spelled_toJson (fun entry hMem =>
      AttributeType.spelled_toJson (hDefaults entry hMem))

end EdgeOutline

namespace SchemaOutline

/- A property of the defaults of a schema. -/
structure EachDefault
    (P : Value → Prop)
    (o : SchemaOutline) : Prop where
  nodes :
    ∀ entry ∈ o.nodes.entries,
      ∀ member ∈ entry.2.attributes.entries,
        member.2.EachDefault P
  edges :
    ∀ entry ∈ o.edges.entries,
      ∀ member ∈ entry.2.attributes.entries,
        member.2.EachDefault P

/- The JSON of a schema. -/
def toJson
    (o : SchemaOutline) :
    Json :=
  .object
    [("graph_name", .string o.graphName),
      ("nodes", o.nodes.toJson NodeOutline.toJson),
      ("edges", o.edges.toJson EdgeOutline.toJson)]

/- A written schema spells the schema. -/
theorem spelled_toJson
    {o : SchemaOutline}
    (hDefaults : o.EachDefault Value.IsSpellable) :
    Spelled o.toJson.draft o := by
  apply Spelled.object (some _) (some _)
  · exact Json.lists_draftMembers _ _
  · exact OrderedMap.spelled_toJson (fun entry hMem =>
      NodeOutline.spelled_toJson (hDefaults.nodes entry hMem))
  · exact OrderedMap.spelled_toJson (fun entry hMem =>
      EdgeOutline.spelled_toJson (hDefaults.edges entry hMem))

/- The text of a value that spells a schema spells it, too. -/
theorem spelledBy_pretty
    {o : SchemaOutline}
    {j : Json}
    (hSpelled : Spelled j.draft o) :
    o.SpelledBy j.pretty := by
  refine ⟨j.draft, [], ?_, rfl, hSpelled⟩
  unfold Json.pretty
  rw [String.toList_ofList]
  exact Draft.read_chars Json.Spacing.blank_lines j

/- What JSON can spell has a document. -/
theorem spelledBy_text
    {o : SchemaOutline}
    (hDefaults : o.EachDefault Value.IsSpellable) :
    o.SpelledBy o.toJson.pretty :=
  spelledBy_pretty (spelled_toJson hDefaults)

end SchemaOutline

end GraphClient

------------------------------------------------------------
-- Construction
------------------------------------------------------------

namespace GraphClient

namespace SchemaOutline

/-
  A definition makes a schema if and only if it is well-formed,
  whether it is built or read from a document that spells it,
  and it is the same schema, which is as it was defined.  No
  document at all is read as a schema that is not well-formed.
-/
theorem construction_iff_wellFormed :
    (∀ o : SchemaOutline,
      ((∃ schema, o.build = .ok schema) ↔ o.WellFormed) ∧
        (∀ schema, o.build = .ok schema ↔ schema.outline = o) ∧
        ∀ text, o.SpelledBy text →
          ((∃ schema, Schema.parse text = .ok schema) ↔
              o.WellFormed) ∧
            ∀ schema,
              Schema.parse text = .ok schema ↔
                o.build = .ok schema) ∧
      (∀ o : SchemaOutline,
        o.EachDefault Value.IsSpellable →
          ∃ text, o.SpelledBy text) ∧
      ∀ text schema,
        Schema.parse text = .ok schema →
          schema.outline.WellFormed := by
  refine ⟨fun o => ⟨exists_build_iff, fun _ => build_eq_ok_iff, ?_⟩,
    ?_, ?_⟩
  · intro text hSpelled
    have hAlike := hSpelled.alike_parse
    exact ⟨(exists_congr hAlike).trans exists_build_iff, hAlike⟩
  · intro o hDefaults
    exact ⟨_, spelledBy_text hDefaults⟩
  · intro text schema _
    exact schema.wellFormed_outline

/- Users who follow each other, each with a picture. -/
def follows
    (dimension : UInt32) :
    SchemaOutline where
  graphName := "Social"
  nodes := .ofList
    [("User",
      ⟨"id",
        .ofList
          [("id", .plain .string),
            ("age", ⟨.uint, some (.int 18)⟩)],
        .ofList [("picture", .ofDimension dimension)]⟩)]
  edges := .ofList
    [("Follows",
      ⟨true, "User", "User", ["since"],
        .ofList [("since", .plain .dateTime)]⟩)]

/- The same with shorthands, and with a remark. -/
def followsInShort
    (dimension : UInt32) :
    Json :=
  .object
    [("edges", .object
        [("Follows", .object
          [("is_directed_edge", .bool true),
            ("from_node_type", .string "User"),
            ("to_node_type", .string "User"),
            ("discriminator", .string "since"),
            ("attributes", .object
              [("since", .string "DATETIME")]),
            ("remark", .null)])]),
      ("graph_name", .string "Social"),
      ("nodes", .object
        [("User", .object
          [("attributes", .object
              [("id", .string "STRING"),
                ("age", .object
                  [("data_type", .string "UINT"),
                    ("default_value", .int 18)])]),
            ("vector_attributes", .object
              [("picture", .int dimension.toNat)])])])]

/- The shorthands spell the definition. -/
theorem spelled_followsInShort
    (dimension : UInt32) :
    Spelled (followsInShort dimension).draft (follows dimension) := by
  have hPlain (dataType : DataType) :
      AttributeType.Spelled (.string (some dataType.keyword))
        (.plain dataType) :=
    .short dataType
  have hAge :
      AttributeType.Spelled
        (Json.object
          [("data_type", .string "UINT"),
            ("default_value", .int 18)]).draft
        ⟨.uint, some (.int 18)⟩ := by
    apply AttributeType.Spelled.full (some _)
    · exact Json.lists_draftMembers _ _
    · exact .value (.int (Value.value?_toInt 18))
  have hPicture :
      VectorType.Spelled (Json.int dimension.toNat).draft
        (.ofDimension dimension) :=
    .short (VectorType.value?_dimension dimension)
  apply Spelled.object (some _) (some _)
  · refine ⟨[], ?_, List.forall_mem_nil _⟩
    exact @List.perm_append_comm _ [_] [_, _]
  · refine ⟨_, rfl, .cons ⟨rfl, ?_⟩ .nil⟩
    apply NodeOutline.Spelled.object none (some _) (some _)
    · exact ⟨[], List.Perm.refl _, List.forall_mem_nil _⟩
    · exact rfl
    · exact ⟨_, rfl,
        .cons ⟨rfl, hPlain .string⟩ (.cons ⟨rfl, hAge⟩ .nil)⟩
    · exact ⟨_, rfl, .cons ⟨rfl, hPicture⟩ .nil⟩
  · refine ⟨_, rfl, .cons ⟨rfl, ?_⟩ .nil⟩
    apply EdgeOutline.Spelled.object (some _) (some _)
    · refine ⟨[("remark", .null)], List.Perm.refl _, ?_⟩
      exact List.forall_mem_singleton.mpr ⟨by decide, trivial⟩
    · exact .single "since"
    · exact ⟨_, rfl, .cons ⟨rfl, hPlain .dateTime⟩ .nil⟩

/-
  With a dimension the definition makes a schema in both ways,
  and without one in neither.
-/
theorem construction_iff_wellFormed_follows :
    (∃ schema,
      (follows 4).build = .ok schema ∧
        Schema.parse (followsInShort 4).pretty = .ok schema ∧
        schema.outline = follows 4 ∧
        schema.outline.WellFormed) ∧
      (∃ text, (follows 4).SpelledBy text) ∧
      ¬ ∃ schema,
        Schema.parse (followsInShort 0).pretty = .ok schema := by
  have hSpelled (dimension : UInt32) :
      (follows dimension).SpelledBy
        (followsInShort dimension).pretty :=
    spelledBy_pretty (spelled_followsInShort dimension)
  rcases construction_iff_wellFormed with
    ⟨hRoutes, hDocuments, hSound⟩
  refine ⟨?_, ?_, ?_⟩
  · rcases hRoutes (follows 4) with ⟨_, hOutline, hTexts⟩
    have hSome : (follows 4).build.toOption.isSome = true := by
      decide +kernel
    rcases Option.isSome_iff_exists.mp hSome with ⟨schema, hSchema⟩
    have hBuild := Checks.eq_ok_of_toOption hSchema
    have hParse := ((hTexts _ (hSpelled 4)).2 schema).mpr hBuild
    exact ⟨schema, hBuild, hParse, (hOutline schema).mp hBuild,
      hSound _ schema hParse⟩
  · exact hDocuments (follows 4)
      ⟨by decide +kernel, by decide +kernel⟩
  · rw [((hRoutes (follows 0)).2.2 _ (hSpelled 0)).1]
    intro hWell
    have hUser := hWell.nodes _ List.mem_cons_self
    have hPicture := (hUser.vectors _ List.mem_cons_self).2
    exact absurd hPicture (by decide)

end SchemaOutline

end GraphClient
