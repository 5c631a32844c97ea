import GraphClient.Proofs.Schema.Rereading
/-
  No default that has been read is a date.

  Key theorems include:
    * `GraphClient.AttributeType.yields_dateless`
    * `GraphClient.NodeType.yields_dateless`
    * `GraphClient.EdgeType.yields_dateless`
    * `GraphClient.Schema.yields_dateless`

  A JSON string is read as a text, whatever it spells, so the
  schemas that come from texts are those that stay as they are
  when they are written and read again.
-/

------------------------------------------------------------
-- Attributes
------------------------------------------------------------

namespace GraphClient

open Json (Draft Reader)

/- No draft spells a date. -/
theorem Value.dateless_of_ofDraft?
    {d : Draft}
    {v : Value}
    (hDraft : ofDraft? d = some v) :
    v.Dateless := by
  cases d with
  | bool b =>
      cases hDraft
      trivial
  | number n =>
      rcases Option.map_eq_some_iff.mp hDraft with ⟨value, _, rfl⟩
      cases value with
      | float x => trivial
      | int i =>
          by_cases hFits : FitsWord i
          · rw [ofNumber, if_pos hFits]
            trivial
          · rw [ofNumber, if_neg hFits]
            trivial
  | string s =>
      rcases Option.map_eq_some_iff.mp hDraft with ⟨text, _, rfl⟩
      trivial
  | _ => cases hDraft

/- An optional value that is there has one of the forms. -/
theorem Json.Reader.exists_of_optional?
    {α : Type}
    {members : List (Option String × Draft)}
    {key : String}
    {form? : Draft → Option α}
    {value : α}
    (hFound : optional? members key form? = some (some value)) :
    ∃ d, form? d = some value := by
  unfold optional? at hFound
  split at hFound
  · cases hFound
  · cases hFound
  · next d _ =>
      rcases Option.map_eq_some_iff.mp hFound with ⟨found, hForm, hEq⟩
      cases hEq
      exact ⟨d, hForm⟩

namespace AttributeType

/- The members of a draft spell no date. -/
theorem dateless_of_ofMembers?
    {members : List (Option String × Draft)}
    {type : AttributeType}
    (hMembers : ofMembers? members = some type) :
    type.EachDefault Value.Dateless := by
  unfold ofMembers? at hMembers
  rcases Option.bind_eq_some_iff.mp hMembers with
    ⟨dataType, _, hRest⟩
  rcases Option.bind_eq_some_iff.mp hRest with
    ⟨found, hFound, hType⟩
  cases hType
  intro value hValue
  cases found with
  | none => cases hValue
  | some default? =>
      rcases Reader.exists_of_optional? hFound with ⟨d, hDraft⟩
      change default? = some value at hValue
      rw [hValue] at hDraft
      unfold defaultOfDraft? at hDraft
      split at hDraft
      · cases hDraft
      · rcases Option.map_eq_some_iff.mp hDraft with
          ⟨spelt, hSpelt, hEq⟩
        cases hEq
        exact Value.dateless_of_ofDraft? hSpelt

/- No attribute that has been read has a date as its default. -/
theorem yields_dateless :
    Reader.Yields reader (EachDefault Value.Dateless) := by
  apply Reader.yields_variant
  intro d type hDraft
  unfold ofDraft? at hDraft
  split at hDraft
  · cases hDraft
    intro value hValue
    cases hValue
  · split at hDraft
    · exact dateless_of_ofMembers? hDraft
    · cases hDraft

end AttributeType

end GraphClient

------------------------------------------------------------
-- Node Types
------------------------------------------------------------

namespace GraphClient

open Json (Reader RecordField)

/-
  What holds of the values of any map that was read also holds
  of those of the empty one.
-/
theorem OrderedMap.forall_getD
    {α : Type}
    {P : α → Prop}
    {found : Option (OrderedMap α)}
    (hFound : ∀ m ∈ found, ∀ entry ∈ m.entries, P entry.2) :
    ∀ entry ∈ (found.getD .empty).entries, P entry.2 := by
  cases found with
  | none =>
      intro entry hMem
      cases hMem
  | some m => exact hFound m rfl

namespace NodeType

/- A node type that is made has the attributes it is made of. -/
theorem attributes_of_make
    {primaryKey : String}
    {attributes : OrderedMap AttributeType}
    {vectors : OrderedMap VectorType}
    {type : NodeType}
    (hMake : make primaryKey attributes vectors = .ok type) :
    type.attributes = attributes := by
  unfold make at hMake
  split at hMake
  · cases hMake
    rfl
  · cases hMake

/- Slots whose attributes have no dates as defaults. -/
def Slots.Dateless
    (slots : Slots) :
    Prop :=
  ∀ m ∈ slots.attributes, ∀ entry ∈ m.entries,
    entry.2.EachDefault Value.Dateless

/- Reading the fields of a node type puts no date into a slot. -/
theorem keeps_dateless :
    form.Keeps Slots.Dateless := by
  intro field hMem
  simp only [form, List.mem_cons, List.not_mem_nil, or_false] at hMem
  rcases hMem with rfl | rfl | rfl
  · exact RecordField.keeps_of_forall (fun _ _ hSlots => hSlots)
  · refine RecordField.keeps_of
      (Reader.yields_map AttributeType.yields_dateless) ?_
    intro slots m _ hMap found hFound
    cases hFound
    exact hMap
  · exact RecordField.keeps_of_forall (fun _ _ hSlots => hSlots)

/- No default of a node type that has been read is a date. -/
theorem yields_dateless :
    Reader.Yields reader (EachDefault Value.Dateless) := by
  have hRecord :
      Reader.Yields
        (Reader.record form ⟨none, none, none⟩
          (fun _ slots => .ok slots))
        Slots.Dateless := by
    refine Reader.yields_record keeps_dateless ?_ ?_
    · intro m hMem
      cases hMem
    · intro absent slots hSlots value hValue
      cases hValue
      exact hSlots
  refine Reader.yields_checked hRecord ?_
  intro slots hSlots type hMake
  have hAttributes :=
    attributes_of_make (Checks.mapError_eq_ok_iff.mp hMake)
  unfold EachDefault
  rw [hAttributes]
  exact OrderedMap.forall_getD hSlots

end NodeType

end GraphClient

------------------------------------------------------------
-- Edge Types
------------------------------------------------------------

namespace GraphClient

open Json (Misfit Reader RecordField)

namespace EdgeType

/- An edge type that is made has the attributes it is made of. -/
theorem attributes_of_make
    {isDirected : Bool}
    {source target : String}
    {discriminator : List String}
    {attributes : OrderedMap AttributeType}
    {type : EdgeType}
    (hMake :
      make isDirected source target discriminator attributes =
        .ok type) :
    type.attributes = attributes := by
  unfold make at hMake
  split at hMake
  · cases hMake
    rfl
  · cases hMake

/- Slots whose attributes have no dates as defaults. -/
def Slots.Dateless
    (slots : Slots) :
    Prop :=
  ∀ m ∈ slots.attributes, ∀ entry ∈ m.entries,
    entry.2.EachDefault Value.Dateless

/- Reading the fields of an edge type puts no date into a slot. -/
theorem keeps_dateless :
    form.Keeps Slots.Dateless := by
  intro field hMem
  simp only [form, List.mem_cons, List.not_mem_nil, or_false] at hMem
  rcases hMem with rfl | rfl | rfl | rfl | rfl
  · exact RecordField.keeps_of_forall (fun _ _ hSlots => hSlots)
  · exact RecordField.keeps_of_forall (fun _ _ hSlots => hSlots)
  · exact RecordField.keeps_of_forall (fun _ _ hSlots => hSlots)
  · exact RecordField.keeps_of_forall (fun _ _ hSlots => hSlots)
  · refine RecordField.keeps_of
      (Reader.yields_map AttributeType.yields_dateless) ?_
    intro slots m _ hMap found hFound
    cases hFound
    exact hMap

/- The attributes of an edge type are those that were read. -/
theorem attributes_of_parts
    {absent : String → Misfit}
    {slots : Slots}
    {parts : Parts}
    (hParts : slots.parts absent = .ok parts) :
    parts.attributes = slots.attributes.getD .empty := by
  rcases Checks.bind_eq_ok_iff.mp hParts with ⟨_, _, hSource⟩
  rcases Checks.bind_eq_ok_iff.mp hSource with ⟨_, _, hTarget⟩
  rcases Checks.bind_eq_ok_iff.mp hTarget with ⟨_, _, hRest⟩
  rw [Checks.pure_eq_ok_iff.mp hRest]

/- No default of an edge type that has been read is a date. -/
theorem yields_dateless :
    Reader.Yields reader (EachDefault Value.Dateless) := by
  have hRecord :
      Reader.Yields
        (Reader.record form ⟨none, none, none, none, none⟩
          Slots.parts)
        (fun parts =>
          ∀ entry ∈ parts.attributes.entries,
            entry.2.EachDefault Value.Dateless) := by
    refine Reader.yields_record keeps_dateless ?_ ?_
    · intro m hMem
      cases hMem
    · intro absent slots hSlots parts hParts
      rw [attributes_of_parts hParts]
      exact OrderedMap.forall_getD hSlots
  refine Reader.yields_checked hRecord ?_
  intro parts hParts type hMake
  have hAttributes :=
    attributes_of_make (Checks.mapError_eq_ok_iff.mp hMake)
  unfold EachDefault
  rw [hAttributes]
  exact hParts

end EdgeType

end GraphClient

------------------------------------------------------------
-- Schemas
------------------------------------------------------------

namespace GraphClient

open Json (Misfit Reader RecordField)

namespace Schema

/- A schema that is made has the types it is made of. -/
theorem types_of_make
    {graphName : String}
    {nodes : OrderedMap NodeType}
    {edges : OrderedMap EdgeType}
    {schema : Schema}
    (hMake : make graphName nodes edges = .ok schema) :
    schema.nodes = nodes ∧ schema.edges = edges := by
  unfold make at hMake
  split at hMake
  · cases hMake
    exact ⟨rfl, rfl⟩
  · cases hMake

/- Slots whose types have no dates as defaults. -/
structure Slots.Dateless (slots : Slots) : Prop where
  nodes :
    ∀ m ∈ slots.nodes, ∀ entry ∈ m.entries,
      entry.2.EachDefault Value.Dateless
  edges :
    ∀ m ∈ slots.edges, ∀ entry ∈ m.entries,
      entry.2.EachDefault Value.Dateless

/- Reading the fields of a schema puts no date into a slot. -/
theorem keeps_dateless :
    form.Keeps Slots.Dateless := by
  intro field hMem
  simp only [form, List.mem_cons, List.not_mem_nil, or_false] at hMem
  rcases hMem with rfl | rfl | rfl
  · exact RecordField.keeps_of_forall
      (fun _ _ hSlots => ⟨hSlots.nodes, hSlots.edges⟩)
  · refine RecordField.keeps_of
      (Reader.yields_map NodeType.yields_dateless) ?_
    intro slots m hSlots hMap
    refine ⟨?_, hSlots.edges⟩
    intro found hFound
    cases hFound
    exact hMap
  · refine RecordField.keeps_of
      (Reader.yields_map EdgeType.yields_dateless) ?_
    intro slots m hSlots hMap
    refine ⟨hSlots.nodes, ?_⟩
    intro found hFound
    cases hFound
    exact hMap

/- The types of a schema are those that were read. -/
theorem types_of_parts
    {absent : String → Misfit}
    {slots : Slots}
    {parts : Parts}
    (hParts : slots.parts absent = .ok parts) :
    parts.nodes = slots.nodes.getD .empty ∧
      parts.edges = slots.edges.getD .empty := by
  rcases Checks.bind_eq_ok_iff.mp hParts with ⟨_, _, hRest⟩
  rw [Checks.pure_eq_ok_iff.mp hRest]
  exact ⟨rfl, rfl⟩

/- No default of a schema that has been read is a date. -/
theorem yields_dateless :
    Reader.Yields reader (EachDefault Value.Dateless) := by
  have hRecord :
      Reader.Yields
        (Reader.record form ⟨none, none, none⟩ Slots.parts)
        (fun parts =>
          (∀ entry ∈ parts.nodes.entries,
              entry.2.EachDefault Value.Dateless) ∧
            ∀ entry ∈ parts.edges.entries,
              entry.2.EachDefault Value.Dateless) := by
    refine Reader.yields_record keeps_dateless ?_ ?_
    · constructor
      · intro m hMem
        cases hMem
      · intro m hMem
        cases hMem
    · intro absent slots hSlots parts hParts
      rcases types_of_parts hParts with ⟨hNodes, hEdges⟩
      rw [hNodes, hEdges]
      exact ⟨OrderedMap.forall_getD hSlots.nodes,
        OrderedMap.forall_getD hSlots.edges⟩
  refine Reader.yields_checked hRecord ?_
  rintro parts ⟨hPartNodes, hPartEdges⟩ schema hMake
  rcases types_of_make (Checks.mapError_eq_ok_iff.mp hMake) with
    ⟨hNodes, hEdges⟩
  constructor
  · rw [hNodes]
    exact hPartNodes
  · rw [hEdges]
    exact hPartEdges

end Schema

end GraphClient
