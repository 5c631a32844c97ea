import GraphClient.Proofs.Response.Keys
import GraphClient.Proofs.Schema.Names
/-
  The keys of edges that are seen from their target.

  Key definitions include:
    * `GraphClient.Record.withType`

  Key theorems include:
    * `GraphClient.Response.edgeKeys_untyped_iff`
    * `GraphClient.Response.edgeKeys_parallel_iff`
    * `GraphClient.Response.edgeKeys_reverse_iff`

  The script that creates a graph adds a type that leads back for
  each directed edge type.  A schema does not hold these types, so
  no discriminators are found for their edges.  Such an edge has
  the values in its key that the edge itself has only where a
  type of the schema is named like the one that leads back.
-/

------------------------------------------------------------
-- Types Outside the Schema
------------------------------------------------------------

namespace GraphClient

/-
  Two records of edges whose types are not in the schema have the
  same key exactly when their ends have the same texts, whatever
  the values of their attributes are.
-/
theorem Response.edgeKeys_untyped_iff
    (schema : Schema)
    {name otherName : String}
    (hNone : schema.edges.get? name = none)
    (hOtherNone : schema.edges.get? otherName = none)
    {first second : Response}
    {i j : Nat}
    {record other : Json}
    (hRecord : first.edgeRecords[i]? = some record)
    (hOther : second.edgeRecords[j]? = some other)
    (hName : record.field? "e_type" = some (.string name))
    (hOtherName :
      other.field? "e_type" = some (.string otherName)) :
    ∃ key otherKey,
      (first.edgeKeys schema)[i]? = some key ∧
        (second.edgeKeys schema)[j]? = some otherKey ∧
        (key = otherKey ↔ Record.SameEnds record other) := by
  rcases exists_edgeKey schema hRecord with ⟨key, hKey, hTells⟩
  rcases exists_edgeKey schema hOther with
    ⟨otherKey, hOtherKey, hOtherTells⟩
  refine ⟨key, otherKey, hKey, hOtherKey, ?_⟩
  rw [EdgeKey.eq_iff, hTells.sameEnds_iff hOtherTells,
    hTells.untyped name hName hNone,
    hOtherTells.untyped otherName hOtherName hOtherNone]
  exact and_iff_left .none

end GraphClient

------------------------------------------------------------
-- Records with Another Type
------------------------------------------------------------

namespace GraphClient

/- Only no values are combined to nothing. -/
theorem EdgeKey.combine_eq_none_iff
    {values : List Json} :
    combine values = none ↔ values = [] := by
  rcases values with _ | ⟨value, _ | ⟨next, rest⟩⟩ <;>
    simp [combine]

namespace Record

/- The same record, as one of an edge of the named type. -/
def withType
    (name : String) :
    Json → Json
| .object fields =>
    .object (Json.putSorted "e_type" (.string name) fields)
| record => record

variable {record : Json}

/- Only the type is another one. -/
theorem field?_withType
    (name : String)
    {key : String}
    (hKey : key ≠ "e_type") :
    (withType name record).field? key = record.field? key := by
  cases record with
  | object fields =>
      exact (Json.lookup_putSorted ..).trans (if_neg hKey.symm)
  | _ => rfl

/- A record of an edge has the type that it is given. -/
theorem type_withType
    (name : String)
    (hEdge : IsEdge record) :
    (withType name record).field? "e_type" =
      some (.string name) := by
  rcases hEdge with ⟨fields, rfl, _⟩
  exact (Json.lookup_putSorted ..).trans (if_pos rfl)

/- An end reads the same for every type. -/
theorem endReads_withType
    (name : String)
    {key : String}
    (hKey : key ≠ "e_type")
    {text : String} :
    EndReads (withType name record) key text ↔
      EndReads record key text := by
  rw [EndReads, EndReads, field?_withType name hKey]

/- The values of attributes are the same for every type. -/
theorem identity?_withType
    (name : String)
    (names : List String) :
    identity? (withType name record) names =
      identity? record names := by
  unfold identity? valueOf
  rw [field?_withType name (by decide)]

/- Nothing identifies a record only if there is nothing to. -/
theorem identity?_eq_none_iff
    {names : List String} :
    identity? record names = none ↔ names = [] := by
  rw [identity?, EdgeKey.combine_eq_none_iff, List.map_eq_nil_iff]

end Record

end GraphClient

------------------------------------------------------------
-- Edges That Lead Back
------------------------------------------------------------

namespace GraphClient

/- The script adds a directed edge type with one that leads back. -/
theorem Schema.exists_addsReverse
    {schema : Schema}
    {name : String}
    {type : EdgeType}
    (hType : schema.edges.get? name = some type)
    (hDirected : type.isDirected = true) :
    ∃ statement ∈ schema.statements,
      Statement.AddsEdgeType (name, type) statement ∧
        statement.typeNames =
          [name, Statement.reverseName name] := by
  have hEntry := Entries.mem_of_lookup hType
  refine ⟨.addEdge name type.isDirected type.columns, ?_,
    Statement.addsEdgeType_addEdge (name, type), ?_⟩
  · apply List.mem_append_left
    exact List.mem_append_right _ (List.mem_map_of_mem hEntry)
  · rw [Statement.typeNames, hDirected, if_pos rfl]

/- Where names stand apart, the type that leads back is no other. -/
theorem Schema.NamesApart.get?_reverseName
    {schema : Schema}
    (hApart : schema.NamesApart)
    {name : String}
    {type : EdgeType}
    (hType : schema.edges.get? name = some type)
    (hDirected : type.isDirected = true) :
    schema.edges.get? (Statement.reverseName name) = none :=
  (Entries.lookup_eq_none_iff _ _).mpr
    (hApart.reverses (name, type) (Entries.mem_of_lookup hType)
      hDirected).2

namespace Response

/-
  In a schema whose names stand apart, edges that lead back are
  told by their ends alone: parallel ones have the same key.
-/
theorem edgeKeys_parallel_iff
    {schema : Schema}
    (hApart : schema.NamesApart)
    {name : String}
    {type : EdgeType}
    (hType : schema.edges.get? name = some type)
    (hDirected : type.isDirected = true)
    {first second : Response}
    {i j : Nat}
    {record other : Json}
    (hRecord : first.edgeRecords[i]? = some record)
    (hOther : second.edgeRecords[j]? = some other)
    (hName :
      record.field? "e_type" =
        some (.string (Statement.reverseName name)))
    (hOtherName :
      other.field? "e_type" =
        some (.string (Statement.reverseName name))) :
    ∃ key otherKey,
      (first.edgeKeys schema)[i]? = some key ∧
        (second.edgeKeys schema)[j]? = some otherKey ∧
        (key = otherKey ↔ Record.SameEnds record other) := by
  have hNone := hApart.get?_reverseName hType hDirected
  exact edgeKeys_untyped_iff schema hNone hNone hRecord hOther
    hName hOtherName

/-
  For a directed edge type with discriminators the script adds a
  type that leads back.  The key of a record of this type has the
  ends that it has as a record of the edge itself, but it has the
  same discriminator exactly when the schema itself has a type of
  that name, whose discriminators identify the record alike.
-/
theorem edgeKeys_reverse_iff
    (schema : Schema)
    {name : String}
    {type : EdgeType}
    (hType : schema.edges.get? name = some type)
    (hDirected : type.isDirected = true)
    (hSome : type.discriminator ≠ [])
    {first second : Response}
    {i j : Nat}
    {record : Json}
    (hRecord : first.edgeRecords[i]? = some record)
    (hForward :
      second.edgeRecords[j]? = some (Record.withType name record))
    (hName :
      record.field? "e_type" =
        some (.string (Statement.reverseName name))) :
    (∃ statement ∈ schema.statements,
        Statement.AddsEdgeType (name, type) statement ∧
          statement.typeNames =
            [name, Statement.reverseName name]) ∧
      ∃ key forwardKey,
        (first.edgeKeys schema)[i]? = some key ∧
          (second.edgeKeys schema)[j]? = some forwardKey ∧
          (key.source = forwardKey.source ∧
            key.target = forwardKey.target) ∧
          forwardKey.discriminator? =
            Record.identity? record type.discriminator ∧
          (key.discriminator? = forwardKey.discriminator? ↔
            ∃ reverse,
              schema.edges.get? (Statement.reverseName name) =
                  some reverse ∧
                Record.identity? record reverse.discriminator =
                  Record.identity? record type.discriminator) := by
  refine ⟨Schema.exists_addsReverse hType hDirected, ?_⟩
  rcases exists_edgeKey schema hRecord with ⟨key, hKey, hTells⟩
  rcases exists_edgeKey schema hForward with
    ⟨forwardKey, hForwardKey, hForwardTells⟩
  have hEdge : Record.IsEdge record :=
    isEdge_of_mem_edgeRecords (List.mem_of_getElem? hRecord)
  have hIdentity :
      forwardKey.discriminator? =
        Record.identity? record type.discriminator := by
    rw [hForwardTells.typed name type
        (Record.type_withType name hEdge) hType,
      Record.identity?_withType]
  have hSource :=
    (Record.endReads_withType name (by decide)).mpr hTells.source
  have hTarget :=
    (Record.endReads_withType name (by decide)).mpr hTells.target
  refine ⟨key, forwardKey, hKey, hForwardKey,
    ⟨hSource.unique hForwardTells.source,
      hTarget.unique hForwardTells.target⟩, hIdentity, ?_⟩
  rw [hIdentity]
  cases hReverse :
      schema.edges.get? (Statement.reverseName name) with
  | none =>
      rw [hTells.untyped _ hName hReverse, eq_comm,
        Record.identity?_eq_none_iff]
      simp [hSome]
  | some reverse =>
      rw [hTells.typed _ reverse hName hReverse]
      simp

/- A record of advice, seen from the customer who is advised. -/
def advised
    (type time : String) :
    Json :=
  .object
    [("attributes", .object [("at", .string time)]),
      ("e_type", .string type),
      ("from_id", .string "bob"),
      ("to_id", .string "ann")]

/- Two pieces of advice, given at two times. -/
def advice
    (type : String) :
    Response :=
  [[("Edges", .array
    [advised type "2024-01-01 00:00:00",
      advised type "2024-06-01 00:00:00"])]]

/- The first of them has another discriminator as it leads back. -/
theorem edgeKeys_reverse_iff_advice :
    ∃ key forwardKey,
      ((advice "reverse_Advises").edgeKeys .shop)[0]? =
          some key ∧
        ((advice "Advises").edgeKeys .shop)[0]? =
          some forwardKey ∧
        key.discriminator? ≠ forwardKey.discriminator? := by
  have hRecord :
      (advice "reverse_Advises").edgeRecords[0]? =
        some (advised "reverse_Advises" "2024-01-01 00:00:00") :=
    rfl
  have hForward :
      (advice "Advises").edgeRecords[0]? =
        some (Record.withType "Advises"
          (advised "reverse_Advises" "2024-01-01 00:00:00")) :=
    rfl
  rcases (edgeKeys_reverse_iff .shop rfl rfl (by decide)
      hRecord hForward rfl).2 with
    ⟨key, forwardKey, hKey, hForwardKey, _, _, hSame⟩
  refine ⟨key, forwardKey, hKey, hForwardKey, ?_⟩
  rw [ne_eq, hSame]
  rintro ⟨reverse, hReverse, _⟩
  exact nomatch hReverse

/-
  A shop tells advice apart by the time at which it was given, but
  seen from their target the two pieces of advice have one key.
-/
theorem edgeKeys_advice_collide :
    (∃ type, Schema.shop.edges.get? "Advises" = some type ∧
        type.isDirected = true ∧ type.discriminator = ["at"]) ∧
      (advice "Advises").edgeKeys .shop =
        [⟨"bob", "ann", some (.string "2024-01-01 00:00:00")⟩,
          ⟨"bob", "ann", some (.string "2024-06-01 00:00:00")⟩] ∧
      (advice "reverse_Advises").edgeKeys .shop =
        [⟨"bob", "ann", none⟩, ⟨"bob", "ann", none⟩] :=
  ⟨⟨_, rfl, rfl, rfl⟩, rfl, rfl⟩

end Response

end GraphClient
