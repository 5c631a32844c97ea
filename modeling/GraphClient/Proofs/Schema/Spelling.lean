import GraphClient.Proofs.Json.Records
import GraphClient.Proofs.Schema.Outline
/-
  Documents that spell the definition of a graph.

  Key definitions include:
    * `GraphClient.AttributeType.Spelled`
    * `GraphClient.VectorType.Spelled`
    * `GraphClient.NodeOutline.Spelled`
    * `GraphClient.EdgeOutline.Spelled`
    * `GraphClient.SchemaOutline.Spelled`
    * `GraphClient.SchemaOutline.SpelledBy`

  Key theorems include:
    * `GraphClient.NodeOutline.Spelled.alike_reader`
    * `GraphClient.EdgeOutline.Spelled.alike_reader`
    * `GraphClient.SchemaOutline.Spelled.alike_reader`
    * `GraphClient.SchemaOutline.SpelledBy.alike_parse`

  A document may use shorthands, leave out what has a default,
  put members in any order and add members that are not known.
  However a definition is spelled, reading it comes to the same
  as building it.
-/

------------------------------------------------------------
-- Spelled Attributes
------------------------------------------------------------

namespace GraphClient

open Json (Draft)
open Json.Draft (Lists OrDefault given)

/- A draft of a text. -/
def Json.Draft.IsText
    (d : Draft)
    (text : String) :
    Prop :=
  d = .string (some text)

/-
  A value is spelled by a word, a number or a string.  A number
  without fraction is an integer if it has 64 bits; no draft
  spells a date.
-/
inductive Value.Spelled : Draft → Value → Prop
| bool (b : Bool) : Spelled (.bool b) (.bool b)
| int
    {n : Numeral}
    {i : Int64}
    (hValue : n.value? = some (.int i.toInt)) :
    Spelled (.number n) (.int i)
| wide
    {n : Numeral}
    {i : Int}
    (hValue : n.value? = some (.int i))
    (hWide : ¬ FitsWord i) :
    Spelled (.number n) (.float (Binary64.ofInt i))
| float
    {n : Numeral}
    {x : Binary64}
    (hValue : n.value? = some (.float x)) :
    Spelled (.number n) (.float x)
| string
    (text : String) :
    Spelled (.string (some text)) (.string text)

namespace AttributeType

/- A default is spelled by its value; null spells none. -/
inductive DefaultSpelled : Draft → Option Value → Prop
| null : DefaultSpelled .null none
| value
    {d : Draft}
    {value : Value}
    (hValue : Value.Spelled d value) :
    DefaultSpelled d (some value)

/- The members of an attribute that is spelled in full. -/
def names : List String :=
  ["data_type", "default_value"]

/- An attribute is spelled in short by its type, or in full. -/
inductive Spelled : Draft → AttributeType → Prop
| short
    (dataType : DataType) :
    Spelled (.string (some dataType.keyword)) (.plain dataType)
| full
    {type : AttributeType}
    {members : List (Option String × Draft)}
    (default? : Option Draft)
    (hMembers :
      Lists names
        (given
          [("data_type", some (.string (some type.dataType.keyword))),
            ("default_value", default?)])
        members)
    (hDefault :
      OrDefault DefaultSpelled none default? type.default?) :
    Spelled (.object members true) type

end AttributeType

namespace VectorType

/- The members of a vector that is spelled in full. -/
def names : List String :=
  ["dimension", "index_type", "data_type", "metric"]

/- A vector is spelled in short by its dimension, or in full. -/
inductive Spelled : Draft → VectorType → Prop
| short
    {n : Numeral}
    {dimension : UInt32}
    (hDimension : n.value? = some (.int dimension.toNat)) :
    Spelled (.number n) (.ofDimension dimension)
| full
    {type : VectorType}
    {members : List (Option String × Draft)}
    {n : Numeral}
    (index? data? metric? : Option Draft)
    (hMembers :
      Lists names
        (given
          [("dimension", some (.number n)),
            ("index_type", index?),
            ("data_type", data?),
            ("metric", metric?)])
        members)
    (hDimension : n.value? = some (.int type.dimension.toNat))
    (hIndex :
      OrDefault Draft.IsText defaultIndexType index? type.indexType)
    (hData :
      OrDefault Draft.IsText defaultDataType data? type.dataType)
    (hMetric :
      OrDefault (fun d metric => d.IsText metric.keyword) .cosine
        metric? type.metric) :
    Spelled (.object members true) type

end VectorType

end GraphClient

------------------------------------------------------------
-- Spelled Definitions
------------------------------------------------------------

namespace GraphClient

open Json (Draft)
open Json.Draft (Lists OrDefault given)

/- A map is spelled by an object, member by member. -/
def OrderedMap.Spelled
    {α : Type}
    (P : Draft → α → Prop)
    (d : Draft)
    (m : OrderedMap α) :
    Prop :=
  ∃ members,
    d = .object members true ∧
      List.Forall₂
        (fun member entry =>
          member.1 = some entry.1 ∧ P member.2 entry.2)
        members m.entries

namespace NodeOutline

/- The members of a node type. -/
def names : List String :=
  ["primary_key", "attributes", "vector_attributes"]

/- A node type is spelled by an object of its parts. -/
inductive Spelled : Draft → NodeOutline → Prop
| object
    {o : NodeOutline}
    {members : List (Option String × Draft)}
    (key? attributes? vectors? : Option Draft)
    (hMembers :
      Lists names
        (given
          [("primary_key", key?),
            ("attributes", attributes?),
            ("vector_attributes", vectors?)])
        members)
    (hKey :
      OrDefault Draft.IsText NodeType.defaultPrimaryKey key?
        o.primaryKey)
    (hAttributes :
      OrDefault (OrderedMap.Spelled AttributeType.Spelled) .empty
        attributes? o.attributes)
    (hVectors :
      OrDefault (OrderedMap.Spelled VectorType.Spelled) .empty
        vectors? o.vectors) :
    Spelled (.object members true) o

end NodeOutline

namespace EdgeOutline

/-
  Discriminators are spelled by a list, a single one also by its
  name, and none also by null.
-/
inductive DiscriminatorSpelled : Draft → List String → Prop
| null : DiscriminatorSpelled .null []
| single
    (name : String) :
    DiscriminatorSpelled (.string (some name)) [name]
| list
    (names : List String) :
    DiscriminatorSpelled
      (.array (names.map (fun name => .string (some name))) true)
      names

/- The members of an edge type. -/
def names : List String :=
  ["is_directed_edge", "from_node_type", "to_node_type",
    "discriminator", "attributes"]

/- An edge type is spelled by an object of its parts. -/
inductive Spelled : Draft → EdgeOutline → Prop
| object
    {o : EdgeOutline}
    {members : List (Option String × Draft)}
    (discriminator? attributes? : Option Draft)
    (hMembers :
      Lists names
        (given
          [("is_directed_edge", some (.bool o.isDirected)),
            ("from_node_type", some (.string (some o.source))),
            ("to_node_type", some (.string (some o.target))),
            ("discriminator", discriminator?),
            ("attributes", attributes?)])
        members)
    (hDiscriminator :
      OrDefault DiscriminatorSpelled [] discriminator?
        o.discriminator)
    (hAttributes :
      OrDefault (OrderedMap.Spelled AttributeType.Spelled) .empty
        attributes? o.attributes) :
    Spelled (.object members true) o

end EdgeOutline

namespace SchemaOutline

/- The members of a schema. -/
def names : List String :=
  ["graph_name", "nodes", "edges"]

/- A schema is spelled by an object of its parts. -/
inductive Spelled : Draft → SchemaOutline → Prop
| object
    {o : SchemaOutline}
    {members : List (Option String × Draft)}
    (nodes? edges? : Option Draft)
    (hMembers :
      Lists names
        (given
          [("graph_name", some (.string (some o.graphName))),
            ("nodes", nodes?),
            ("edges", edges?)])
        members)
    (hNodes :
      OrDefault (OrderedMap.Spelled NodeOutline.Spelled) .empty
        nodes? o.nodes)
    (hEdges :
      OrDefault (OrderedMap.Spelled EdgeOutline.Spelled) .empty
        edges? o.edges) :
    Spelled (.object members true) o

/- A document that spells a schema, and nothing after it. -/
def SpelledBy
    (o : SchemaOutline)
    (text : String) :
    Prop :=
  ∃ d rest,
    Draft.read text.toList = (d, rest) ∧
      Draft.skipSpace rest = [] ∧
      Spelled d o

end SchemaOutline

end GraphClient

------------------------------------------------------------
-- Reading Attributes
------------------------------------------------------------

namespace GraphClient

open Json (Draft Reader)
open Json.Draft (Lists OrDefault given)

namespace Value

/- A spelled value is recognized. -/
theorem Spelled.ofDraft?
    {d : Draft}
    {value : Value}
    (hSpelled : Spelled d value) :
    Value.ofDraft? d = some value := by
  cases hSpelled with
  | bool b => rfl
  | @int n i hValue =>
      have hFits : FitsWord i.toInt := ⟨i.le_toInt, i.toInt_lt⟩
      rw [Value.ofDraft?, hValue, Option.map_some, ofNumber,
        if_pos hFits, Int64.ofInt_toInt]
  | wide hValue hWide =>
      rw [Value.ofDraft?, hValue, Option.map_some, ofNumber,
        if_neg hWide]
  | float hValue => rw [Value.ofDraft?, hValue]; rfl
  | string text => rfl

/- A spelled value is a scalar. -/
theorem Spelled.isScalar
    {d : Draft}
    {value : Value}
    (hSpelled : Spelled d value) :
    d.IsScalar := by
  cases hSpelled with
  | bool b => trivial
  | int hValue => exact ⟨_, hValue⟩
  | wide hValue _ => exact ⟨_, hValue⟩
  | float hValue => exact ⟨_, hValue⟩
  | string text => exact ⟨text, rfl⟩

end Value

namespace AttributeType

/- A spelled default is recognized. -/
theorem DefaultSpelled.defaultOfDraft?
    {d : Draft}
    {default? : Option Value}
    (hSpelled : DefaultSpelled d default?) :
    AttributeType.defaultOfDraft? d = some default? := by
  cases hSpelled with
  | null => rfl
  | value hValue =>
      have hFound := hValue.ofDraft?
      unfold AttributeType.defaultOfDraft?
      split
      · cases hFound
      · rw [hFound]
        rfl

/- A spelled default is a scalar. -/
theorem DefaultSpelled.isScalar
    {d : Draft}
    {default? : Option Value}
    (hSpelled : DefaultSpelled d default?) :
    d.IsScalar := by
  cases hSpelled with
  | null => trivial
  | value hValue => exact hValue.isScalar

/- The members of a spelled attribute are recognized. -/
theorem ofMembers?_eq_some
    {type : AttributeType}
    {members : List (Option String × Draft)}
    {default? : Option Draft}
    (hMembers :
      Lists names
        (given
          [("data_type", some (.string (some type.dataType.keyword))),
            ("default_value", default?)])
        members)
    (hDefault :
      OrDefault DefaultSpelled none default? type.default?) :
    ofMembers? members = some type := by
  have hTypeMember :
      Reader.member? members "data_type" =
        some (some (.string (some type.dataType.keyword))) :=
    Reader.member?_lists_given hMembers rfl (by decide) (by simp)
  have hDefaultMember :
      Reader.member? members "default_value" = some default? :=
    Reader.member?_lists_given hMembers rfl (by decide) (by simp)
  have hType :
      DataType.ofDraft? (.string (some type.dataType.keyword)) =
        some type.dataType :=
    DataType.ofKeyword?_keyword type.dataType
  have hForm (d : Draft) (default? : Option Value) :
      DefaultSpelled d default? →
        defaultOfDraft? d = some default? :=
    DefaultSpelled.defaultOfDraft?
  rcases Reader.optional?_eq_some hDefaultMember hForm hDefault with
    ⟨found, hFound, hValue⟩
  have hJoin : found.bind id = type.default? := by
    rw [← hValue]
    cases found <;> rfl
  unfold ofMembers?
  rw [Reader.member_eq_some hTypeMember hType, hFound]
  simp only [Option.bind_eq_bind, Option.bind_some, hJoin]
  rfl

/- A spelled attribute is recognized. -/
theorem Spelled.ofDraft?
    {d : Draft}
    {type : AttributeType}
    (hSpelled : Spelled d type) :
    AttributeType.ofDraft? d = some type := by
  cases hSpelled with
  | short dataType =>
      have hType :
          DataType.ofDraft? (.string (some dataType.keyword)) =
            some dataType :=
        DataType.ofKeyword?_keyword dataType
      unfold AttributeType.ofDraft?
      simp only [hType]
  | full _ hMembers hDefault =>
      have hWord := Reader.word?_lists hMembers
        (List.mem_cons_self) (fun hNull => by cases hNull)
      unfold AttributeType.ofDraft? DataType.ofDraft?
      rw [hWord]
      exact ofMembers?_eq_some hMembers hDefault

/- A spelled attribute passes as JSON. -/
theorem Spelled.passes
    {d : Draft}
    {type : AttributeType}
    (hSpelled : Spelled d type)
    (budget : Nat) :
    Reader.Passes (budget + 2) d := by
  cases hSpelled with
  | short dataType => exact Reader.passes_string _ _
  | full default? hMembers hDefault =>
      apply Reader.passes_lists hMembers
      rintro ⟨key, d⟩ hField
      apply Draft.IsScalar.passes
      simp only [Draft.mem_given_iff, List.mem_cons, Prod.mk.injEq,
        List.not_mem_nil, or_false] at hField
      rcases hField with ⟨_, hType⟩ | ⟨_, hGiven⟩
      · cases hType
        exact ⟨_, rfl⟩
      · rw [← hGiven] at hDefault
        exact DefaultSpelled.isScalar hDefault

/- A spelled attribute is read. -/
theorem Spelled.reader
    {d : Draft}
    {type : AttributeType}
    (hSpelled : Spelled d type)
    (budget : Nat) :
    AttributeType.reader (budget + 2) d = .ok type :=
  Reader.variant_eq_ok (hSpelled.passes budget) hSpelled.ofDraft?

end AttributeType

end GraphClient

------------------------------------------------------------
-- Reading Vectors
------------------------------------------------------------

namespace GraphClient

open Json (Draft Reader)
open Json.Draft (Lists OrDefault given)

/- A draft of a text is a scalar. -/
theorem Json.Draft.IsText.isScalar
    {d : Draft}
    {text : String}
    (hText : d.IsText text) :
    d.IsScalar := by
  cases hText
  exact ⟨text, rfl⟩

/- A draft of a text is read. -/
theorem Json.Draft.IsText.reader
    {d : Draft}
    {text : String}
    (hText : d.IsText text)
    (budget : Nat) :
    Reader.string budget d = .ok text := by
  cases hText
  rfl

namespace VectorType

/- A spelled dimension is recognized. -/
theorem dimensionOfDraft?_eq_some
    {n : Numeral}
    {dimension : UInt32}
    (hDimension : n.value? = some (.int dimension.toNat)) :
    dimensionOfDraft? (.number n) = some dimension := by
  have hLt := dimension.toNat_lt
  have hRange :
      (0 : Int) ≤ dimension.toNat ∧
        (dimension.toNat : Int).toNat < Nat.pow 2 32 :=
    ⟨Int.natCast_nonneg _, hLt⟩
  simp only [dimensionOfDraft?, hDimension]
  rw [if_pos hRange, Int.toNat_natCast, UInt32.ofNat_toNat]

/- The members of a spelled vector are recognized. -/
theorem ofMembers?_eq_some
    {type : VectorType}
    {members : List (Option String × Draft)}
    {n : Numeral}
    {index? data? metric? : Option Draft}
    (hMembers :
      Lists names
        (given
          [("dimension", some (.number n)),
            ("index_type", index?),
            ("data_type", data?),
            ("metric", metric?)])
        members)
    (hDimension : n.value? = some (.int type.dimension.toNat))
    (hIndex :
      OrDefault Draft.IsText defaultIndexType index? type.indexType)
    (hData :
      OrDefault Draft.IsText defaultDataType data? type.dataType)
    (hMetric :
      OrDefault (fun d metric => d.IsText metric.keyword) .cosine
        metric? type.metric) :
    ofMembers? members = some type := by
  have hDimensionMember :
      Reader.member? members "dimension" = some (some (.number n)) :=
    Reader.member?_lists_given hMembers rfl (by decide) (by simp)
  have hIndexMember :
      Reader.member? members "index_type" = some index? :=
    Reader.member?_lists_given hMembers rfl (by decide) (by simp)
  have hDataMember :
      Reader.member? members "data_type" = some data? :=
    Reader.member?_lists_given hMembers rfl (by decide) (by simp)
  have hMetricMember :
      Reader.member? members "metric" = some metric? :=
    Reader.member?_lists_given hMembers rfl (by decide) (by simp)
  have hText (d : Draft) (text : String) :
      d.IsText text → stringOfDraft? d = some text := by
    rintro rfl
    rfl
  have hKeyword (d : Draft) (metric : Metric) :
      d.IsText metric.keyword → Metric.ofDraft? d = some metric := by
    rintro rfl
    exact Metric.ofKeyword?_keyword metric
  rcases Reader.optional?_eq_some hIndexMember hText hIndex with
    ⟨index, hIndexFound, hIndexValue⟩
  rcases Reader.optional?_eq_some hDataMember hText hData with
    ⟨data, hDataFound, hDataValue⟩
  rcases Reader.optional?_eq_some hMetricMember hKeyword hMetric with
    ⟨metric, hMetricFound, hMetricValue⟩
  unfold ofMembers?
  rw [Reader.member_eq_some hDimensionMember
      (dimensionOfDraft?_eq_some hDimension),
    hIndexFound, hDataFound, hMetricFound]
  simp only [Option.bind_eq_bind, Option.bind_some, hIndexValue,
    hDataValue, hMetricValue]
  rfl

/- A spelled vector is recognized. -/
theorem Spelled.ofDraft?
    {d : Draft}
    {type : VectorType}
    (hSpelled : Spelled d type) :
    VectorType.ofDraft? d = some type := by
  cases hSpelled with
  | short hDimension =>
      unfold VectorType.ofDraft?
      simp only [dimensionOfDraft?_eq_some hDimension]
  | full _ _ _ hMembers hDimension hIndex hData hMetric =>
      exact ofMembers?_eq_some hMembers hDimension hIndex hData hMetric

/- A spelled vector passes as JSON. -/
theorem Spelled.passes
    {d : Draft}
    {type : VectorType}
    (hSpelled : Spelled d type)
    (budget : Nat) :
    Reader.Passes (budget + 2) d := by
  cases hSpelled with
  | short hDimension => exact Reader.passes_number _ hDimension
  | full index? data? metric? hMembers hDimension hIndex hData
      hMetric =>
      apply Reader.passes_lists hMembers
      rintro ⟨key, d⟩ hField
      apply Draft.IsScalar.passes
      simp only [Draft.mem_given_iff, List.mem_cons, Prod.mk.injEq,
        List.not_mem_nil, or_false] at hField
      rcases hField with
        ⟨_, hGiven⟩ | ⟨_, hGiven⟩ | ⟨_, hGiven⟩ | ⟨_, hGiven⟩
      · cases hGiven
        exact ⟨_, hDimension⟩
      · rw [← hGiven] at hIndex
        exact Draft.IsText.isScalar hIndex
      · rw [← hGiven] at hData
        exact Draft.IsText.isScalar hData
      · rw [← hGiven] at hMetric
        exact Draft.IsText.isScalar hMetric

/- Require that a vector has a dimension. -/
def requireDimension
    (type : VectorType) :
    Except Json.Misfit VectorType :=
  if type.dimension = 0 then
    .error (.refused noDimension)
  else
    .ok type

/- A required dimension is there, and the vector is unchanged. -/
theorem requireDimension_eq_ok_iff
    {type found : VectorType} :
    type.requireDimension = .ok found ↔
      found = type ∧ type.dimension ≠ 0 := by
  unfold requireDimension
  split
  · next hZero => simp [hZero]
  · next hDimension => simp [hDimension, eq_comm]

/- A spelled vector is read, if it has a dimension. -/
theorem Spelled.alike_reader
    {d : Draft}
    {type : VectorType}
    (hSpelled : Spelled d type)
    (budget : Nat) :
    Checks.Alike (VectorType.reader (budget + 2) d)
      type.requireDimension := by
  intro found
  have hRead :
      Reader.variant "VectorAttributeSchemaDef" VectorType.ofDraft?
          (budget + 2) d =
        .ok type :=
    Reader.variant_eq_ok (hSpelled.passes budget) hSpelled.ofDraft?
  unfold VectorType.reader Reader.checked
  rw [hRead]
  exact Checks.mapError_eq_ok_iff

end VectorType

end GraphClient

------------------------------------------------------------
-- Reading Node Types
------------------------------------------------------------

namespace GraphClient

open Json (Draft Reader RecordField RecordForm)
open Json.Draft (given keyed)

/- A spelled map is read like its values. -/
theorem OrderedMap.Spelled.alike_reader
    {ε α β : Type}
    {P : Draft → α → Prop}
    {reader : Reader β}
    {build : α → Except ε β}
    {budget : Nat}
    (hRead :
      ∀ d a, P d a →
        Checks.Alike (reader (budget + 1) d) (build a))
    {d : Draft}
    {m : OrderedMap α}
    (hSpelled : OrderedMap.Spelled P d m) :
    Checks.Alike (Reader.map reader (budget + 2) d)
      (m.traverse build) := by
  rcases hSpelled with ⟨members, rfl, hMembers⟩
  apply Reader.alike_map
  exact hMembers.imp
    (fun member entry hBoth => ⟨hBoth.1, hRead _ _ hBoth.2⟩)

/- Spelled attributes are read. -/
theorem AttributeType.map_reader_eq_ok
    {d : Draft}
    {attributes : OrderedMap AttributeType}
    (hSpelled :
      OrderedMap.Spelled AttributeType.Spelled d attributes)
    (budget : Nat) :
    Reader.map AttributeType.reader (budget + 3) d =
      .ok attributes := by
  have hRead (d : Draft) (type : AttributeType)
      (hType : AttributeType.Spelled d type) :
      Checks.Alike (AttributeType.reader (budget + 2) d)
        (.ok type : Except SchemaError AttributeType) := by
    rw [hType.reader budget]
    intro found
    rw [Except.ok.injEq, Except.ok.injEq]
  rw [hSpelled.alike_reader hRead]
  exact OrderedMap.traverse_same (fun _ _ => rfl)

/- Spelled vectors are read, if they have dimensions. -/
theorem VectorType.map_alike_reader
    (budget : Nat)
    {d : Draft}
    {vectors : OrderedMap VectorType}
    (hSpelled : OrderedMap.Spelled VectorType.Spelled d vectors) :
    Checks.Alike (Reader.map VectorType.reader (budget + 3) d)
      (vectors.traverse VectorType.requireDimension) := by
  apply hSpelled.alike_reader
  intro d type hVector
  exact hVector.alike_reader budget

namespace NodeType

/- The fields of a node type may come in any order. -/
theorem orderless_form : form.Orderless where
  sets := by
    simp only [form, List.forall_mem_cons]
    refine ⟨?_, ?_, ?_, List.forall_mem_nil _⟩
    all_goals exact RecordField.sets_of (fun _ _ => rfl)
  apart := by
    simp only [form, List.pairwise_cons, List.forall_mem_cons]
    refine ⟨⟨?_, ?_, List.forall_mem_nil _⟩,
      ⟨?_, List.forall_mem_nil _⟩, List.forall_mem_nil _, .nil⟩
    all_goals
      exact RecordField.apart_of (fun _ _ => rfl) (fun _ _ => rfl)
        (fun _ _ _ => rfl)

/- The members of a node type are read field by field. -/
theorem readMembers_given
    (budget : Nat)
    (key? attributes? vectors? : Option Draft) :
    form.readMembers budget
        (keyed (given
          [("primary_key", key?),
            ("attributes", attributes?),
            ("vector_attributes", vectors?)]))
        ⟨none, none, none⟩ =
      (do
        let key ← Reader.string.ifGiven budget key?
        let attributes ←
          Reader.ifGiven (Reader.map AttributeType.reader) budget
            attributes?
        let vectors ←
          Reader.ifGiven (Reader.map VectorType.reader) budget
            vectors?
        return ⟨key, attributes, vectors⟩) := by
  apply RecordForm.readMembers_given
    (fun key => Slots.mk key none none) rfl rfl (fun _ => rfl)
  intro key
  apply RecordForm.readMembers_given
    (fun attributes => Slots.mk key attributes none) rfl rfl
    (fun _ => rfl)
  intro attributes
  exact RecordForm.readMembers_given
    (fun vectors => Slots.mk key attributes vectors) rfl rfl
    (fun _ => rfl) (fun _ => rfl)

end NodeType

namespace NodeOutline

/- The vectors of what can be built have dimensions. -/
theorem traverse_requireDimension
    {o : NodeOutline}
    {type : NodeType}
    (hBuild : o.build = .ok type) :
    o.vectors.traverse VectorType.requireDimension =
      .ok o.vectors := by
  rw [← build_eq_ok_iff.mp hBuild]
  have hAccepted := (NodeType.check_eq_ok_iff.mp type.accepted).2.2
  apply OrderedMap.traverse_same
  intro entry hMem
  exact VectorType.requireDimension_eq_ok_iff.mpr
    ⟨rfl, (hAccepted entry hMem).2⟩

/- A spelled node type is read as it is built. -/
theorem Spelled.alike_reader
    {d : Draft}
    {o : NodeOutline}
    (hSpelled : Spelled d o)
    (budget : Nat) :
    Checks.Alike (NodeType.reader (budget + 4) d) o.build := by
  cases hSpelled with
  | object key? attributes? vectors? hMembers hKey hAttributes
      hVectors =>
      intro type
      have hAnyOrder :=
        NodeType.orderless_form.readMembers_lists hMembers
          (budget + 3) ⟨none, none, none⟩
      rcases Reader.exists_ifGiven_eq_ok
          (fun _ _ hText => hText.reader (budget + 3)) hKey with
        ⟨key, hKeyRead, hKeyValue⟩
      rcases Reader.exists_ifGiven_eq_ok
          (fun _ _ hMap => AttributeType.map_reader_eq_ok hMap budget)
          hAttributes with
        ⟨attributes, hAttributesRead, hAttributesValue⟩
      have hVectorsRead :=
        Reader.exists_ifGiven_iff hVectors
          (OrderedMap.traverse VectorType.requireDimension)
          (OrderedMap.traverse_empty _)
          (fun _ _ => VectorType.map_alike_reader budget)
          (Q := fun vectors =>
            NodeType.make o.primaryKey o.attributes vectors =
              .ok type)
      unfold NodeType.reader
      rw [Reader.checked_record_eq_ok_iff]
      simp only [hAnyOrder _, NodeType.readMembers_given, hKeyRead,
        hAttributesRead, Checks.bind_eq_ok_iff,
        Checks.pure_eq_ok_iff, SchemaError.refuse,
        Checks.mapError_eq_ok_iff, Except.ok.injEq, exists_eq_left']
      constructor
      · rintro ⟨_, ⟨vectors, hFound, rfl⟩, hMake⟩
        rw [hKeyValue, hAttributesValue] at hMake
        rcases hVectorsRead.mp ⟨vectors, hFound, hMake⟩ with
          ⟨same, hSame, hBuild⟩
        have hEq : same = o.vectors :=
          OrderedMap.eq_of_traverse_eq_ok
            (fun _ _ hType =>
              (VectorType.requireDimension_eq_ok_iff.mp hType).1)
            hSame
        rw [hEq] at hBuild
        exact hBuild
      · intro hBuild
        have hSame := traverse_requireDimension hBuild
        rcases hVectorsRead.mpr ⟨o.vectors, hSame, hBuild⟩ with
          ⟨vectors, hFound, hMake⟩
        refine ⟨_, ⟨vectors, hFound, rfl⟩, ?_⟩
        rw [hKeyValue, hAttributesValue]
        exact hMake

/- Spelled node types are read as they are built. -/
theorem map_alike_reader
    (budget : Nat)
    {d : Draft}
    {nodes : OrderedMap NodeOutline}
    (hSpelled : OrderedMap.Spelled Spelled d nodes) :
    Checks.Alike (Reader.map NodeType.reader (budget + 5) d)
      (nodes.traverse build) := by
  apply hSpelled.alike_reader
  intro d o hNode
  exact hNode.alike_reader budget

end NodeOutline

end GraphClient

------------------------------------------------------------
-- Reading Edge Types
------------------------------------------------------------

namespace GraphClient

open Json (Draft Reader RecordField RecordForm)
open Json.Draft (given keyed)

/- The drafts of strings are those of their texts. -/
theorem Json.drafts_map_string
    (texts : List String) :
    Json.drafts (texts.map .string) =
      texts.map (fun text => .string (some text)) := by
  induction texts with
  | nil => rfl
  | cons text texts ih => exact congrArg (List.cons _) ih

/- Spelled discriminators are read. -/
theorem EdgeOutline.DiscriminatorSpelled.reader
    {d : Draft}
    {names : List String}
    (hSpelled : DiscriminatorSpelled d names)
    (budget : Nat) :
    EdgeType.discriminatorReader (budget + 2) d = .ok names := by
  cases hSpelled with
  | null => rfl
  | single name => rfl
  | list =>
      have hRead := EdgeType.discriminatorReader_strings names budget
      rw [Json.strings, Json.draft, Json.drafts_map_string] at hRead
      exact hRead

namespace EdgeType

/- The fields of an edge type may come in any order. -/
theorem orderless_form : form.Orderless where
  sets := by
    simp only [form, List.forall_mem_cons]
    refine ⟨?_, ?_, ?_, ?_, ?_, List.forall_mem_nil _⟩
    all_goals exact RecordField.sets_of (fun _ _ => rfl)
  apart := by
    simp only [form, List.pairwise_cons, List.forall_mem_cons]
    refine ⟨⟨?_, ?_, ?_, ?_, List.forall_mem_nil _⟩,
      ⟨?_, ?_, ?_, List.forall_mem_nil _⟩,
      ⟨?_, ?_, List.forall_mem_nil _⟩,
      ⟨?_, List.forall_mem_nil _⟩, List.forall_mem_nil _, .nil⟩
    all_goals
      exact RecordField.apart_of (fun _ _ => rfl) (fun _ _ => rfl)
        (fun _ _ _ => rfl)

/- The members of an edge type are read field by field. -/
theorem readMembers_given
    (budget : Nat)
    (isDirected? source? target? discriminator? attributes? :
      Option Draft) :
    form.readMembers budget
        (keyed (given
          [("is_directed_edge", isDirected?),
            ("from_node_type", source?),
            ("to_node_type", target?),
            ("discriminator", discriminator?),
            ("attributes", attributes?)]))
        ⟨none, none, none, none, none⟩ =
      (do
        let isDirected ← Reader.bool.ifGiven budget isDirected?
        let source ← Reader.string.ifGiven budget source?
        let target ← Reader.string.ifGiven budget target?
        let names ←
          discriminatorReader.ifGiven budget discriminator?
        let attributes ←
          Reader.ifGiven (Reader.map AttributeType.reader) budget
            attributes?
        return ⟨isDirected, source, target, names, attributes⟩) := by
  apply RecordForm.readMembers_given
    (fun isDirected => Slots.mk isDirected none none none none) rfl
    rfl (fun _ => rfl)
  intro isDirected
  apply RecordForm.readMembers_given
    (fun source => Slots.mk isDirected source none none none) rfl
    rfl (fun _ => rfl)
  intro source
  apply RecordForm.readMembers_given
    (fun target => Slots.mk isDirected source target none none) rfl
    rfl (fun _ => rfl)
  intro target
  apply RecordForm.readMembers_given
    (fun names => Slots.mk isDirected source target names none) rfl
    rfl (fun _ => rfl)
  intro names
  exact RecordForm.readMembers_given
    (fun attributes =>
      Slots.mk isDirected source target names attributes)
    rfl rfl (fun _ => rfl) (fun _ => rfl)

end EdgeType

namespace EdgeOutline

/- A spelled edge type is read as it is built. -/
theorem Spelled.alike_reader
    {d : Draft}
    {o : EdgeOutline}
    (hSpelled : Spelled d o)
    (budget : Nat) :
    Checks.Alike (EdgeType.reader (budget + 4) d) o.build := by
  cases hSpelled with
  | @object _ members discriminator? attributes? hMembers
      hDiscriminator hAttributes =>
      intro type
      have hAnyOrder :=
        EdgeType.orderless_form.readMembers_lists hMembers
          (budget + 3) ⟨none, none, none, none, none⟩
      rcases Reader.exists_ifGiven_eq_ok
          (fun _ _ hNames => hNames.reader (budget + 1))
          hDiscriminator with
        ⟨names, hNamesRead, hNamesValue⟩
      rcases Reader.exists_ifGiven_eq_ok
          (fun _ _ hMap => AttributeType.map_reader_eq_ok hMap budget)
          hAttributes with
        ⟨attributes, hAttributesRead, hAttributesValue⟩
      have hRead :
          EdgeType.form.readMembers (budget + 3) members
              ⟨none, none, none, none, none⟩ =
            .ok ⟨some o.isDirected, some o.source, some o.target,
              names, attributes⟩ := by
        rw [hAnyOrder, EdgeType.readMembers_given, hNamesRead,
          hAttributesRead]
        rfl
      have hParts :
          EdgeType.Slots.parts .missing
              ⟨some o.isDirected, some o.source, some o.target,
                names, attributes⟩ =
            .ok ⟨o.isDirected, o.source, o.target, o.discriminator,
              o.attributes⟩ := by
        rw [← hNamesValue, ← hAttributesValue]
        rfl
      unfold EdgeType.reader
      rw [Reader.checked_record_eq_ok_iff, hRead]
      simp only [Except.ok.injEq, exists_eq_left', hParts,
        SchemaError.refuse, Checks.mapError_eq_ok_iff]
      rfl

/- Spelled edge types are read as they are built. -/
theorem map_alike_reader
    (budget : Nat)
    {d : Draft}
    {edges : OrderedMap EdgeOutline}
    (hSpelled : OrderedMap.Spelled Spelled d edges) :
    Checks.Alike (Reader.map EdgeType.reader (budget + 5) d)
      (edges.traverse build) := by
  apply hSpelled.alike_reader
  intro d o hEdge
  exact hEdge.alike_reader budget

end EdgeOutline

end GraphClient

------------------------------------------------------------
-- Reading Schemas
------------------------------------------------------------

namespace GraphClient

open Json (Draft Reader RecordField RecordForm)
open Json.Draft (given keyed)

namespace Schema

/- The fields of a schema may come in any order. -/
theorem orderless_form : form.Orderless where
  sets := by
    simp only [form, List.forall_mem_cons]
    refine ⟨?_, ?_, ?_, List.forall_mem_nil _⟩
    all_goals exact RecordField.sets_of (fun _ _ => rfl)
  apart := by
    simp only [form, List.pairwise_cons, List.forall_mem_cons]
    refine ⟨⟨?_, ?_, List.forall_mem_nil _⟩,
      ⟨?_, List.forall_mem_nil _⟩, List.forall_mem_nil _, .nil⟩
    all_goals
      exact RecordField.apart_of (fun _ _ => rfl) (fun _ _ => rfl)
        (fun _ _ _ => rfl)

/- The members of a schema are read field by field. -/
theorem readMembers_given
    (budget : Nat)
    (graphName? nodes? edges? : Option Draft) :
    form.readMembers budget
        (keyed (given
          [("graph_name", graphName?),
            ("nodes", nodes?),
            ("edges", edges?)]))
        ⟨none, none, none⟩ =
      (do
        let graphName ← Reader.string.ifGiven budget graphName?
        let nodes ←
          Reader.ifGiven (Reader.map NodeType.reader) budget nodes?
        let edges ←
          Reader.ifGiven (Reader.map EdgeType.reader) budget edges?
        return ⟨graphName, nodes, edges⟩) := by
  apply RecordForm.readMembers_given
    (fun graphName => Slots.mk graphName none none) rfl rfl
    (fun _ => rfl)
  intro graphName
  apply RecordForm.readMembers_given
    (fun nodes => Slots.mk graphName nodes none) rfl rfl
    (fun _ => rfl)
  intro nodes
  exact RecordForm.readMembers_given
    (fun edges => Slots.mk graphName nodes edges) rfl rfl
    (fun _ => rfl) (fun _ => rfl)

end Schema

namespace SchemaOutline

/- A spelled schema is read as it is built. -/
theorem Spelled.alike_reader
    {d : Draft}
    {o : SchemaOutline}
    (hSpelled : Spelled d o)
    (budget : Nat) :
    Checks.Alike (Schema.reader (budget + 6) d) o.build := by
  cases hSpelled with
  | object nodes? edges? hMembers hNodes hEdges =>
      intro schema
      have hAnyOrder :=
        Schema.orderless_form.readMembers_lists hMembers
          (budget + 5) ⟨none, none, none⟩
      have hNameRead :
          Reader.string.ifGiven (budget + 5)
              (some (.string (some o.graphName))) =
            .ok (some o.graphName) :=
        rfl
      have hEdgesRead (nodes : OrderedMap NodeType) :=
        Reader.exists_ifGiven_iff hEdges
          (OrderedMap.traverse EdgeOutline.build)
          (OrderedMap.traverse_empty _)
          (fun _ _ => EdgeOutline.map_alike_reader budget)
          (Q := fun edges =>
            Schema.make o.graphName nodes edges = .ok schema)
      have hNodesRead :=
        Reader.exists_ifGiven_iff hNodes
          (OrderedMap.traverse NodeOutline.build)
          (OrderedMap.traverse_empty _)
          (fun _ _ => NodeOutline.map_alike_reader budget)
          (Q := fun nodes =>
            ∃ edges,
              o.edges.traverse EdgeOutline.build = .ok edges ∧
                Schema.make o.graphName nodes edges = .ok schema)
      unfold Schema.reader SchemaOutline.build
      rw [Reader.checked_record_eq_ok_iff]
      simp only [hAnyOrder _, Schema.readMembers_given, hNameRead,
        Checks.bind_eq_ok_iff, Checks.pure_eq_ok_iff,
        SchemaError.refuse, Checks.mapError_eq_ok_iff,
        Except.ok.injEq, exists_eq_left']
      rw [← hNodesRead]
      simp only [← hEdgesRead]
      constructor
      · rintro ⟨_, ⟨nodes, hFound, edges, hFoundEdges, rfl⟩, _,
          hParts, hMake⟩
        cases hParts
        exact ⟨nodes, hFound, edges, hFoundEdges, hMake⟩
      · rintro ⟨nodes, hFound, edges, hFoundEdges, hMake⟩
        exact ⟨_, ⟨nodes, hFound, edges, hFoundEdges, rfl⟩, _, rfl,
          hMake⟩

end SchemaOutline

end GraphClient

------------------------------------------------------------
-- Reading Documents
------------------------------------------------------------

namespace GraphClient

open Json (Draft Reader)

/- A text with nothing after its value is read like the value. -/
theorem Json.Reader.run_eq
    {α : Type}
    (reader : Reader α)
    {text : String}
    {d : Draft}
    {rest : List Char}
    (hRead : Draft.read text.toList = (d, rest))
    (hEnd : Draft.skipSpace rest = []) :
    Reader.run reader text = reader Reader.nestingLimit d := by
  unfold Reader.run
  rw [hRead]
  simp only [hEnd]
  exact bind_pure _

namespace SchemaOutline

/- A document is read as the schema that it spells is built. -/
theorem SpelledBy.alike_parse
    {text : String}
    {o : SchemaOutline}
    (hSpelled : o.SpelledBy text) :
    Checks.Alike (Schema.parse text) o.build := by
  rcases hSpelled with ⟨d, rest, hRead, hEnd, hObject⟩
  unfold Schema.parse
  rw [Reader.run_eq Schema.reader hRead hEnd]
  exact hObject.alike_reader 122

end SchemaOutline

end GraphClient
