import GraphClient.Config
import GraphClient.Proofs.Schema.Spelling
/-
  Shorthands mean what they stand for.

  Key definitions include:
    * `GraphClient.AttributeSketch`
    * `GraphClient.VectorSketch`
    * `GraphClient.NodeSketch`
    * `GraphClient.EdgeSketch`
    * `GraphClient.SchemaSketch`
    * `GraphClient.SchemaSketch.SpelledBy`

  Key theorems include:
    * `GraphClient.AttributeSketch.Spelled.reader`
    * `GraphClient.VectorSketch.Spelled.reader`
    * `GraphClient.NodeSketch.Spelled.reader`
    * `GraphClient.EdgeSketch.Spelled.reader`
    * `GraphClient.SchemaSketch.Spelled.reader`
    * `GraphClient.SchemaSketch.shorthands_alike`

  A sketch defines a graph part by part, whether or not it makes
  a schema: names of types may be unknown, dimensions zero, and
  required parts missing.  A document spells it by choosing a
  short form or the long one at each place.  What is read from
  the document depends on the sketch only, and so documents of
  one sketch are read as the same schema or are all refused.

  Objects may have members of other names, whose values are
  scalars.  A number beyond all floats and a string with half of
  a surrogate pair have no value: they are faults of the text.
-/

------------------------------------------------------------
-- Sketches
------------------------------------------------------------

namespace GraphClient

open Json (Draft Reader)

/- An attribute, by the drafts of its type and its default. -/
structure AttributeSketch where
  dataType? : Option Draft
  default : Draft := .null

/- A vector, by the drafts of its parts. -/
structure VectorSketch where
  dimension? : Option Draft
  indexType : Draft := .string (some VectorType.defaultIndexType)
  dataType : Draft := .string (some VectorType.defaultDataType)
  metric : Draft := .string (some Metric.cosine.keyword)

/- A node type; of equal names the last one counts. -/
structure NodeSketch where
  primaryKey : Draft := .string (some NodeType.defaultPrimaryKey)
  attributes : Entries AttributeSketch := []
  vectors : Entries VectorSketch := []

/- An edge type. -/
structure EdgeSketch where
  isDirected? : Option Draft
  source? : Option Draft
  target? : Option Draft
  discriminator : List Draft := []
  attributes : Entries AttributeSketch := []

/- A graph. -/
structure SchemaSketch where
  graphName? : Option Draft
  nodes : Entries NodeSketch := []
  edges : Entries EdgeSketch := []

end GraphClient

------------------------------------------------------------
-- What Sketches Mean
------------------------------------------------------------

namespace GraphClient

open Json (Draft Reader)

/- The truth value that a draft spells. -/
def Json.Draft.bool? : Draft → Option Bool
| .bool b => some b
| _ => none

/- The attribute that is sketched, if its parts fit. -/
def AttributeSketch.type?
    (s : AttributeSketch) :
    Option AttributeType := do
  let dataType ← s.dataType?.bind DataType.ofDraft?
  let default? ← AttributeType.defaultOfDraft? s.default
  return ⟨dataType, default?⟩

/- The vector that is sketched, if its parts fit. -/
def VectorSketch.parts?
    (s : VectorSketch) :
    Option VectorType := do
  let dimension ← s.dimension?.bind VectorType.dimensionOfDraft?
  let indexType ← VectorType.stringOfDraft? s.indexType
  let dataType ← VectorType.stringOfDraft? s.dataType
  let metric ← Metric.ofDraft? s.metric
  return ⟨dimension, indexType, dataType, metric⟩

/- The vector that is sketched, if it has a dimension. -/
def VectorSketch.type?
    (s : VectorSketch) :
    Option VectorType := do
  let type ← s.parts?
  type.requireDimension.toOption

/- The node type that is sketched, if it passes. -/
def NodeSketch.type?
    (s : NodeSketch) :
    Option NodeType := do
  let primaryKey ← VectorType.stringOfDraft? s.primaryKey
  let attributes ← s.attributes.gather? AttributeSketch.type?
  let vectors ← s.vectors.gather? VectorSketch.type?
  (NodeType.make primaryKey attributes vectors).toOption

/- The edge type that is sketched, if it passes. -/
def EdgeSketch.type?
    (s : EdgeSketch) :
    Option EdgeType := do
  let isDirected ← s.isDirected?.bind Draft.bool?
  let source ← s.source?.bind VectorType.stringOfDraft?
  let target ← s.target?.bind VectorType.stringOfDraft?
  let discriminator ← Reader.texts? s.discriminator
  let attributes ← s.attributes.gather? AttributeSketch.type?
  (EdgeType.make isDirected source target discriminator
    attributes).toOption

/- The schema that is sketched, if it passes. -/
def SchemaSketch.schema?
    (s : SchemaSketch) :
    Option Schema := do
  let graphName ← s.graphName?.bind VectorType.stringOfDraft?
  let nodes ← s.nodes.gather? NodeSketch.type?
  let edges ← s.edges.gather? EdgeSketch.type?
  (Schema.make graphName nodes edges).toOption

end GraphClient

------------------------------------------------------------
-- Documents of Sketches
------------------------------------------------------------

namespace GraphClient

open Json (Draft)
open Json.Draft (Lists OrDefault given)

/- A list of named parts is spelled by an object, in order. -/
def Entries.Spelled
    {α : Type}
    (P : Draft → α → Prop)
    (d : Draft)
    (entries : Entries α) :
    Prop :=
  ∃ members,
    d = .object members true ∧
      List.Forall₂
        (fun member entry =>
          member.1 = some entry.1 ∧ P member.2 entry.2)
        members entries

namespace AttributeSketch

/- An attribute that is defined by the name of its type alone. -/
def named
    (word : String) :
    AttributeSketch where
  dataType? := some (.string (some word))

/-
  The names that have a meaning among the members of an
  attribute.  Where no type is given, an object that maps the
  name of a type to null is another way to give it.
-/
def names
    (s : AttributeSketch) :
    List String :=
  match s.dataType? with
  | some _ => AttributeType.names
  | none => AttributeType.names ++ DataType.all.map DataType.keyword

/-
  An attribute without default is spelled by its type alone, and
  every attribute by an object.
-/
inductive Spelled : Draft → AttributeSketch → Prop
| short
    (word : String) :
    Spelled (.string (some word)) (named word)
| full
    {s : AttributeSketch}
    {members : List (Option String × Draft)}
    (default? : Option Draft)
    (hMembers :
      Lists s.names
        (given
          [("data_type", s.dataType?), ("default_value", default?)])
        members)
    (hScalar : ∀ d ∈ s.dataType?, d.IsScalar)
    (hDefault : OrDefault Eq .null default? s.default) :
    Spelled (.object members true) s

end AttributeSketch

namespace VectorSketch

/- A vector that is defined by its dimension alone. -/
def sized
    (n : Numeral) :
    VectorSketch where
  dimension? := some (.number n)

/-
  A vector with defaults is spelled by its dimension alone, and
  every vector by an object.
-/
inductive Spelled : Draft → VectorSketch → Prop
| short
    (n : Numeral) :
    Spelled (.number n) (sized n)
| full
    {s : VectorSketch}
    {members : List (Option String × Draft)}
    (index? data? metric? : Option Draft)
    (hMembers :
      Lists VectorType.names
        (given
          [("dimension", s.dimension?),
            ("index_type", index?),
            ("data_type", data?),
            ("metric", metric?)])
        members)
    (hIndex :
      OrDefault Eq (.string (some VectorType.defaultIndexType))
        index? s.indexType)
    (hData :
      OrDefault Eq (.string (some VectorType.defaultDataType))
        data? s.dataType)
    (hScalar : s.metric.IsScalar)
    (hMetric :
      OrDefault Eq (.string (some Metric.cosine.keyword)) metric?
        s.metric) :
    Spelled (.object members true) s

end VectorSketch

/- A node type is spelled by an object of its parts. -/
inductive NodeSketch.Spelled : Draft → NodeSketch → Prop
| object
    {s : NodeSketch}
    {members : List (Option String × Draft)}
    (key? attributes? vectors? : Option Draft)
    (hMembers :
      Lists NodeOutline.names
        (given
          [("primary_key", key?),
            ("attributes", attributes?),
            ("vector_attributes", vectors?)])
        members)
    (hKey :
      OrDefault Eq (.string (some NodeType.defaultPrimaryKey)) key?
        s.primaryKey)
    (hAttributes :
      OrDefault (Entries.Spelled AttributeSketch.Spelled) []
        attributes? s.attributes)
    (hVectors :
      OrDefault (Entries.Spelled VectorSketch.Spelled) [] vectors?
        s.vectors) :
    Spelled (.object members true) s

namespace EdgeSketch

/-
  Discriminators are spelled by a list, a single one also by its
  name, and none also by null.
-/
inductive DiscriminatorSpelled : Draft → List Draft → Prop
| null : DiscriminatorSpelled .null []
| single
    (name : String) :
    DiscriminatorSpelled (.string (some name)) [.string (some name)]
| list
    (names : List Draft) :
    DiscriminatorSpelled (.array names true) names

/- An edge type is spelled by an object of its parts. -/
inductive Spelled : Draft → EdgeSketch → Prop
| object
    {s : EdgeSketch}
    {members : List (Option String × Draft)}
    (discriminator? attributes? : Option Draft)
    (hMembers :
      Lists EdgeOutline.names
        (given
          [("is_directed_edge", s.isDirected?),
            ("from_node_type", s.source?),
            ("to_node_type", s.target?),
            ("discriminator", discriminator?),
            ("attributes", attributes?)])
        members)
    (hDiscriminator :
      OrDefault DiscriminatorSpelled [] discriminator?
        s.discriminator)
    (hAttributes :
      OrDefault (Entries.Spelled AttributeSketch.Spelled) []
        attributes? s.attributes) :
    Spelled (.object members true) s

end EdgeSketch

namespace SchemaSketch

/- A graph is spelled by an object of its parts. -/
inductive Spelled : Draft → SchemaSketch → Prop
| object
    {s : SchemaSketch}
    {members : List (Option String × Draft)}
    (nodes? edges? : Option Draft)
    (hMembers :
      Lists SchemaOutline.names
        (given
          [("graph_name", s.graphName?),
            ("nodes", nodes?),
            ("edges", edges?)])
        members)
    (hNodes :
      OrDefault (Entries.Spelled NodeSketch.Spelled) [] nodes?
        s.nodes)
    (hEdges :
      OrDefault (Entries.Spelled EdgeSketch.Spelled) [] edges?
        s.edges) :
    Spelled (.object members true) s

/- A document that spells a graph, and nothing after it. -/
def SpelledBy
    (s : SchemaSketch)
    (text : String) :
    Prop :=
  ∃ d rest,
    Draft.read text.toList = (d, rest) ∧
      Draft.skipSpace rest = [] ∧
      Spelled d s

end SchemaSketch

end GraphClient

------------------------------------------------------------
-- Reading Attributes
------------------------------------------------------------

namespace GraphClient

open Json (Draft Reader)
open Json.Draft (Lists OrDefault given keyed)

namespace AttributeSketch

/- The known names of an attribute have a meaning. -/
theorem subset_names
    (s : AttributeSketch) :
    AttributeType.names ⊆ s.names := by
  unfold names
  split
  · exact List.Subset.refl _
  · exact List.subset_append_left _ _

/- A name that is no type's does not name a type. -/
theorem ofKeyword?_eq_none
    {word : String}
    (hWord : word ∉ DataType.all.map DataType.keyword) :
    DataType.ofKeyword? word = none := by
  apply List.find?_eq_none.mpr
  intro type hMem hFound
  apply hWord
  rw [← of_decide_eq_true hFound]
  exact List.mem_map_of_mem hMem

/- A single member of an attribute, if it is null, names no type. -/
theorem ofKeyword?_alone
    {s : AttributeSketch}
    {word : String}
    {default? : Option Draft}
    (hMembers :
      Lists s.names
        (given
          [("data_type", s.dataType?), ("default_value", default?)])
        [(some word, .null)]) :
    DataType.ofKeyword? word = none := by
  rcases hMembers with ⟨extras, hPerm, hExtras⟩
  have hOnly := List.singleton_perm.mp hPerm
  -- the member is the type, the default, or neither of them
  cases hType : s.dataType? with
  | some d =>
      rw [hType] at hOnly
      have hHead := congrArg List.head? hOnly
      simp only [given, keyed, List.filterMap_cons, Option.map_some,
        List.cons_append, List.map_cons, List.head?_cons,
        Option.some.injEq, Prod.mk.injEq] at hHead
      rw [hHead.1]
      decide
  | none =>
      rw [hType] at hOnly
      cases default? with
      | some d =>
          have hHead := congrArg List.head? hOnly
          simp only [given, keyed, List.filterMap_cons,
            Option.map_some, Option.map_none, List.cons_append,
            List.map_cons, List.head?_cons, Option.some.injEq,
            Prod.mk.injEq] at hHead
          rw [hHead.1]
          decide
      | none =>
          have hMem : (some word, Draft.null) ∈ keyed extras := by
            change [(some word, Draft.null)] = keyed extras at hOnly
            rw [← hOnly]
            exact List.mem_cons_self
          rcases List.mem_map.mp hMem with ⟨extra, hExtra, hEq⟩
          have hKey : extra.1 = word :=
            Option.some.inj (congrArg Prod.fst hEq)
          have hUnknown := (hExtras extra hExtra).1
          unfold names at hUnknown
          rw [hType, hKey] at hUnknown
          apply ofKeyword?_eq_none
          intro hWord
          exact hUnknown (List.mem_append_right _ hWord)

/- The object of an attribute does not pass for a type's name. -/
theorem ofDraft?_object
    {s : AttributeSketch}
    {members : List (Option String × Draft)}
    {default? : Option Draft}
    (hMembers :
      Lists s.names
        (given
          [("data_type", s.dataType?), ("default_value", default?)])
        members) :
    DataType.ofDraft? (.object members true) = none := by
  unfold DataType.ofDraft?
  cases hWord : Reader.word? (.object members true) with
  | none => rfl
  | some word =>
      rw [Reader.eq_of_word?_object hWord] at hMembers
      exact ofKeyword?_alone hMembers

/- The members of a spelled attribute are what is sketched. -/
theorem ofMembers?_eq
    {s : AttributeSketch}
    {members : List (Option String × Draft)}
    {default? : Option Draft}
    (hMembers :
      Lists s.names
        (given
          [("data_type", s.dataType?), ("default_value", default?)])
        members)
    (hDefault : OrDefault Eq .null default? s.default) :
    AttributeType.ofMembers? members = s.type? := by
  have hNodup :
      ([("data_type", s.dataType?),
        ("default_value", default?)].map Prod.fst).Nodup :=
    show AttributeType.names.Nodup by decide
  have hMember {key : String} {d? : Option Draft}
      (hKey : key ∈ AttributeType.names)
      (hField :
        (key, d?) ∈
          [("data_type", s.dataType?), ("default_value", default?)]) :
      Reader.member? members key = some d? := by
    rw [Reader.member?_lists hMembers (s.subset_names hKey)]
    exact Reader.member?_given hNodup hField
  have hType :
      Reader.member members "data_type" DataType.ofDraft? =
        s.dataType?.bind DataType.ofDraft? :=
    Reader.member_eq_bind (hMember (by decide) (by simp))
  have hValue :
      (Reader.optional? members "default_value"
          AttributeType.defaultOfDraft?).map
            (fun found => found.getD none) =
        AttributeType.defaultOfDraft? s.default :=
    Reader.optional?_getD (hMember (by decide) (by simp)) hDefault
      rfl
  have hJoin (found : Option (Option Value)) :
      found.bind id = found.getD none := by
    cases found <;> rfl
  unfold AttributeType.ofMembers? type?
  rw [hType, ← hValue]
  simp only [Option.bind_eq_bind, Option.bind_map,
    Function.comp_def, hJoin]

/- A spelled attribute is recognized as it is sketched. -/
theorem Spelled.ofDraft?
    {d : Draft}
    {s : AttributeSketch}
    (hSpelled : Spelled d s) :
    AttributeType.ofDraft? d = s.type? := by
  cases hSpelled with
  | short word =>
      unfold AttributeType.ofDraft? type? named
      cases hType : DataType.ofDraft? (.string (some word)) with
      | none => simp [hType]
      | some dataType =>
          simp [hType, AttributeType.defaultOfDraft?,
            AttributeType.plain]
  | full default? hMembers hScalar hDefault =>
      unfold AttributeType.ofDraft?
      rw [ofDraft?_object hMembers]
      exact ofMembers?_eq hMembers hDefault

/- A default that fits is a scalar. -/
theorem isScalar_of_defaultOfDraft?
    {d : Draft}
    {default? : Option Value}
    (hDefault : AttributeType.defaultOfDraft? d = some default?) :
    d.IsScalar := by
  cases d with
  | null => trivial
  | bool b => trivial
  | number n =>
      cases hValue : n.value? with
      | none =>
          simp [AttributeType.defaultOfDraft?, Value.ofDraft?,
            hValue] at hDefault
      | some value => exact ⟨value, hValue⟩
  | string text? =>
      cases text? with
      | none => cases hDefault
      | some text => exact ⟨text, rfl⟩
  | _ => cases hDefault

/- A spelled attribute passes as JSON when its parts fit. -/
theorem Spelled.passes
    {d : Draft}
    {s : AttributeSketch}
    (hSpelled : Spelled d s)
    {type : AttributeType}
    (hType : s.type? = some type)
    (budget : Nat) :
    Reader.Passes (budget + 2) d := by
  rcases Option.bind_eq_some_iff.mp hType with ⟨_, _, hRest⟩
  rcases Option.bind_eq_some_iff.mp hRest with ⟨_, hValue, _⟩
  cases hSpelled with
  | short word => exact Reader.passes_string _ word
  | full default? hMembers hScalar hDefault =>
      apply Reader.passes_lists hMembers
      rintro ⟨key, d⟩ hField
      apply Draft.IsScalar.passes
      simp only [Draft.mem_given_iff, List.mem_cons, Prod.mk.injEq,
        List.not_mem_nil, or_false] at hField
      rcases hField with ⟨_, hGiven⟩ | ⟨_, hGiven⟩
      · exact hScalar d hGiven.symm
      · rw [← hGiven] at hDefault
        rw [← show d = s.default from hDefault] at hValue
        exact isScalar_of_defaultOfDraft? hValue

/- A spelled attribute is read as it is sketched. -/
theorem Spelled.reader
    {d : Draft}
    {s : AttributeSketch}
    (hSpelled : Spelled d s)
    (budget : Nat) :
    (AttributeType.reader (budget + 2) d).toOption = s.type? := by
  have hForm := hSpelled.ofDraft?
  rw [← hForm]
  apply Reader.toOption_variant
  intro type hType
  rw [hForm] at hType
  exact hSpelled.passes hType budget

end AttributeSketch

end GraphClient

------------------------------------------------------------
-- Reading Vectors
------------------------------------------------------------

namespace GraphClient

open Json (Draft Reader)
open Json.Draft (Lists OrDefault given)

/- A draft that spells a text is a scalar. -/
theorem VectorType.isScalar_of_stringOfDraft?
    {d : Draft}
    {text : String}
    (hText : stringOfDraft? d = some text) :
    d.IsScalar := by
  cases d with
  | string text? =>
      cases text? with
      | none => cases hText
      | some text => exact ⟨text, rfl⟩
  | _ => cases hText

/- A draft that spells a dimension is a scalar. -/
theorem VectorType.isScalar_of_dimensionOfDraft?
    {d : Draft}
    {dimension : UInt32}
    (hDimension : dimensionOfDraft? d = some dimension) :
    d.IsScalar := by
  cases d with
  | number n =>
      cases hValue : n.value? with
      | none => simp [dimensionOfDraft?, hValue] at hDimension
      | some value => exact ⟨value, hValue⟩
  | _ => cases hDimension

namespace VectorSketch

/- The members of a spelled vector are what is sketched. -/
theorem ofMembers?_eq
    {s : VectorSketch}
    {members : List (Option String × Draft)}
    {index? data? metric? : Option Draft}
    (hMembers :
      Lists VectorType.names
        (given
          [("dimension", s.dimension?),
            ("index_type", index?),
            ("data_type", data?),
            ("metric", metric?)])
        members)
    (hIndex :
      OrDefault Eq (.string (some VectorType.defaultIndexType))
        index? s.indexType)
    (hData :
      OrDefault Eq (.string (some VectorType.defaultDataType))
        data? s.dataType)
    (hMetric :
      OrDefault Eq (.string (some Metric.cosine.keyword)) metric?
        s.metric) :
    VectorType.ofMembers? members = s.parts? := by
  have hMember {key : String} {d? : Option Draft}
      (hField :
        (key, d?) ∈
          [("dimension", s.dimension?),
            ("index_type", index?),
            ("data_type", data?),
            ("metric", metric?)]) :
      Reader.member? members key = some d? :=
    Reader.member?_lists_given hMembers rfl (by decide) hField
  have hDimension :
      Reader.member members "dimension"
          VectorType.dimensionOfDraft? =
        s.dimension?.bind VectorType.dimensionOfDraft? :=
    Reader.member_eq_bind (hMember (by simp))
  have hIndexValue :
      (Reader.optional? members "index_type"
          VectorType.stringOfDraft?).map
            (fun found => found.getD VectorType.defaultIndexType) =
        VectorType.stringOfDraft? s.indexType :=
    Reader.optional?_getD (hMember (by simp)) hIndex rfl
  have hDataValue :
      (Reader.optional? members "data_type"
          VectorType.stringOfDraft?).map
            (fun found => found.getD VectorType.defaultDataType) =
        VectorType.stringOfDraft? s.dataType :=
    Reader.optional?_getD (hMember (by simp)) hData rfl
  have hMetricValue :
      (Reader.optional? members "metric" Metric.ofDraft?).map
          (fun found => found.getD .cosine) =
        Metric.ofDraft? s.metric :=
    Reader.optional?_getD (hMember (by simp)) hMetric rfl
  unfold VectorType.ofMembers? parts?
  rw [hDimension, ← hIndexValue, ← hDataValue, ← hMetricValue]
  simp only [Option.bind_eq_bind, Option.bind_map,
    Function.comp_def]

/- A spelled vector is recognized as it is sketched. -/
theorem Spelled.ofDraft?
    {d : Draft}
    {s : VectorSketch}
    (hSpelled : Spelled d s) :
    VectorType.ofDraft? d = s.parts? := by
  cases hSpelled with
  | short n =>
      have hMetric :
          Metric.ofDraft? (.string (some Metric.cosine.keyword)) =
            some .cosine :=
        rfl
      unfold VectorType.ofDraft? parts? sized
      cases hDimension : VectorType.dimensionOfDraft? (.number n) with
      | none => simp [hDimension]
      | some dimension =>
          simp [hDimension, hMetric, VectorType.stringOfDraft?,
            VectorType.ofDimension]
  | full _ _ _ hMembers hIndex hData _ hMetric =>
      exact ofMembers?_eq hMembers hIndex hData hMetric

/- A spelled vector passes as JSON when its parts fit. -/
theorem Spelled.passes
    {d : Draft}
    {s : VectorSketch}
    (hSpelled : Spelled d s)
    {type : VectorType}
    (hParts : s.parts? = some type)
    (budget : Nat) :
    Reader.Passes (budget + 2) d := by
  rcases Option.bind_eq_some_iff.mp hParts with
    ⟨_, hDimension, hRest⟩
  rcases Option.bind_eq_some_iff.mp hRest with ⟨_, hIndex, hRest⟩
  rcases Option.bind_eq_some_iff.mp hRest with ⟨_, hData, _⟩
  rcases Option.bind_eq_some_iff.mp hDimension with
    ⟨dimension, hGiven, hFits⟩
  have hNumber := VectorType.isScalar_of_dimensionOfDraft? hFits
  cases hSpelled with
  | short n =>
      cases hGiven
      exact hNumber.passes _
  | full index? data? metric? hMembers hIndexGiven hDataGiven
      hScalar hMetricGiven =>
      apply Reader.passes_lists hMembers
      rintro ⟨key, d⟩ hField
      apply Draft.IsScalar.passes
      simp only [Draft.mem_given_iff, List.mem_cons, Prod.mk.injEq,
        List.not_mem_nil, or_false] at hField
      rcases hField with
        ⟨_, hFound⟩ | ⟨_, hFound⟩ | ⟨_, hFound⟩ | ⟨_, hFound⟩
      · rw [← hFound] at hGiven
        cases hGiven
        exact hNumber
      · rw [← hFound] at hIndexGiven
        rw [show d = s.indexType from hIndexGiven]
        exact VectorType.isScalar_of_stringOfDraft? hIndex
      · rw [← hFound] at hDataGiven
        rw [show d = s.dataType from hDataGiven]
        exact VectorType.isScalar_of_stringOfDraft? hData
      · rw [← hFound] at hMetricGiven
        rw [show d = s.metric from hMetricGiven]
        exact hScalar

/- A spelled vector is read as it is sketched. -/
theorem Spelled.reader
    {d : Draft}
    {s : VectorSketch}
    (hSpelled : Spelled d s)
    (budget : Nat) :
    (VectorType.reader (budget + 2) d).toOption = s.type? := by
  have hForm := hSpelled.ofDraft?
  have hRead :
      (Reader.variant "VectorAttributeSchemaDef"
          VectorType.ofDraft? (budget + 2) d).toOption =
        VectorType.ofDraft? d := by
    apply Reader.toOption_variant
    intro type hType
    rw [hForm] at hType
    exact hSpelled.passes hType budget
  unfold VectorType.reader Reader.checked type?
  rw [Checks.toOption_bind, hRead, hForm]
  simp only [Checks.toOption_mapError]
  rfl

end VectorSketch

end GraphClient

------------------------------------------------------------
-- Reading Node Types
------------------------------------------------------------

namespace GraphClient

open Json (Draft Reader)

/- What is made of spelled parts is what is made of each. -/
theorem Entries.Spelled.reader
    {α β : Type}
    {P : Draft → α → Prop}
    {reader : Reader β}
    {item : α → Option β}
    {budget : Nat}
    (hRead :
      ∀ d a, P d a → (reader (budget + 1) d).toOption = item a)
    {d : Draft}
    {entries : Entries α}
    (hSpelled : Entries.Spelled P d entries) :
    (Reader.map reader (budget + 2) d).toOption =
      entries.gather? item := by
  rcases hSpelled with ⟨members, rfl, hMembers⟩
  apply Reader.toOption_map
  exact hMembers.imp
    (fun member entry hBoth => ⟨hBoth.1, hRead _ _ hBoth.2⟩)

/- Spelled attributes are read as they are sketched. -/
theorem AttributeSketch.map_reader
    (budget : Nat)
    (d : Draft)
    (attributes : Entries AttributeSketch)
    (hSpelled : Entries.Spelled Spelled d attributes) :
    (Reader.map AttributeType.reader (budget + 3) d).toOption =
      attributes.gather? type? := by
  apply hSpelled.reader
  intro d s hAttribute
  exact hAttribute.reader budget

/- Spelled vectors are read as they are sketched. -/
theorem VectorSketch.map_reader
    (budget : Nat)
    (d : Draft)
    (vectors : Entries VectorSketch)
    (hSpelled : Entries.Spelled Spelled d vectors) :
    (Reader.map VectorType.reader (budget + 3) d).toOption =
      vectors.gather? type? := by
  apply hSpelled.reader
  intro d s hVector
  exact hVector.reader budget

/- Nothing is made of no parts. -/
theorem Entries.gather?_nil
    {α β : Type}
    (item : α → Option β) :
    Entries.gather? item [] = some .empty :=
  rfl

/- A misfit has no result. -/
theorem Json.Reader.toOption_wrongType
    {α : Type}
    (expected : String)
    (d : Draft) :
    (Reader.wrongType expected d : Except Fault α).toOption =
      none := by
  cases hRead : (Reader.wrongType expected d : Except Fault α) with
  | ok value => exact absurd hRead Reader.wrongType_ne_ok
  | error e => rfl

/- A text is read where it is spelled. -/
theorem Json.Reader.toOption_string
    (budget : Nat)
    (d : Draft) :
    (Reader.string budget d).toOption =
      VectorType.stringOfDraft? d := by
  cases d with
  | string text? =>
      cases text? with
      | none => rfl
      | some text => rfl
  | _ => exact toOption_wrongType _ _

/- A truth value is read where it is spelled. -/
theorem Json.Reader.toOption_bool
    (budget : Nat)
    (d : Draft) :
    (Reader.bool budget d).toOption = d.bool? := by
  cases d with
  | bool b => rfl
  | _ => exact toOption_wrongType _ _

/- A spelled node type is read as it is sketched. -/
theorem NodeSketch.Spelled.reader
    {d : Draft}
    {s : NodeSketch}
    (hSpelled : Spelled d s)
    (budget : Nat) :
    (NodeType.reader (budget + 4) d).toOption = s.type? := by
  cases hSpelled with
  | object key? attributes? vectors? hMembers hKey hAttributes
      hVectors =>
      have hAnyOrder :=
        NodeType.orderless_form.readMembers_lists hMembers
          (budget + 3) ⟨none, none, none⟩
      have hText (d e : Draft) (hEq : d = e) :
          (Reader.string (budget + 3) d).toOption =
            VectorType.stringOfDraft? e := by
        rw [hEq]
        exact Reader.toOption_string _ e
      have hKeyRead :
          (Reader.string.ifGiven (budget + 3) key?).toOption.map
              (fun found => found.getD NodeType.defaultPrimaryKey) =
            VectorType.stringOfDraft? s.primaryKey :=
        Reader.toOption_ifGiven_getD hText rfl hKey
      have hAttributesRead :=
        Reader.toOption_ifGiven_getD
          (AttributeSketch.map_reader budget)
          (Entries.gather?_nil _) hAttributes
      have hVectorsRead :=
        Reader.toOption_ifGiven_getD
          (VectorSketch.map_reader budget)
          (Entries.gather?_nil _) hVectors
      unfold NodeType.reader type?
      rw [Reader.toOption_checked_record,
        Checks.alike_iff.mp hAnyOrder, NodeType.readMembers_given,
        ← hKeyRead, ← hAttributesRead, ← hVectorsRead]
      simp only [Checks.toOption_bind, Option.bind_assoc,
        Option.bind_eq_bind, Option.bind_map, Function.comp_def,
        SchemaError.refuse, Checks.toOption_mapError]
      rfl

/- Spelled node types are read as they are sketched. -/
theorem NodeSketch.map_reader
    (budget : Nat)
    (d : Draft)
    (nodes : Entries NodeSketch)
    (hSpelled : Entries.Spelled Spelled d nodes) :
    (Reader.map NodeType.reader (budget + 5) d).toOption =
      nodes.gather? type? := by
  apply hSpelled.reader
  intro d s hNode
  exact hNode.reader budget

end GraphClient

------------------------------------------------------------
-- Reading Edge Types
------------------------------------------------------------

namespace GraphClient

open Json (Draft Reader)

/- An array of texts passes as JSON. -/
theorem Json.Reader.passes_texts
    {items : List Draft}
    {texts : List String}
    (hTexts : Reader.texts? items = some texts)
    (budget : Nat) :
    Reader.Passes (budget + 2) (.array items true) := by
  have hAll :
      ∃ values, Reader.anyItems (budget + 1) items = .ok values := by
    induction items generalizing texts with
    | nil => exact ⟨[], rfl⟩
    | cons item items ih =>
        cases item with
        | string text? =>
            rcases Option.bind_eq_some_iff.mp hTexts with
              ⟨text, hText, hRest⟩
            rcases Option.bind_eq_some_iff.mp hRest with
              ⟨rest, hTail, _⟩
            rcases ih hTail with ⟨values, hValues⟩
            refine ⟨.string text :: values, ?_⟩
            rw [hText, Reader.anyItems, Reader.any, Reader.plain,
              hValues]
            rfl
        | _ => cases hTexts
  rcases hAll with ⟨values, hValues⟩
  refine ⟨.array values, ?_⟩
  rw [Reader.any, Reader.enter]
  simp only [bind, Except.bind, hValues]
  rfl

/- The parts of an edge type are there if its slots are filled. -/
theorem EdgeType.toOption_parts
    (absent : String → Json.Misfit)
    (slots : EdgeType.Slots) :
    (slots.parts absent).toOption =
      (do
        let isDirected ← slots.isDirected
        let source ← slots.source
        let target ← slots.target
        return ⟨isDirected, source, target,
          slots.discriminator.getD [],
          slots.attributes.getD .empty⟩) := by
  rcases slots with ⟨isDirected?, source?, target?, _, _⟩
  cases isDirected? <;> cases source? <;> cases target? <;> rfl

namespace EdgeSketch

/- Spelled discriminators are read as they are sketched. -/
theorem DiscriminatorSpelled.reader
    (budget : Nat)
    (d : Draft)
    (names : List Draft)
    (hSpelled : DiscriminatorSpelled d names) :
    (EdgeType.discriminatorReader (budget + 2) d).toOption =
      Reader.texts? names := by
  cases hSpelled with
  | null => rfl
  | single name => rfl
  | list =>
      unfold EdgeType.discriminatorReader
      apply Reader.toOption_variant
      intro texts hTexts
      exact Reader.passes_texts hTexts budget

/- A spelled edge type is read as it is sketched. -/
theorem Spelled.reader
    {d : Draft}
    {s : EdgeSketch}
    (hSpelled : Spelled d s)
    (budget : Nat) :
    (EdgeType.reader (budget + 4) d).toOption = s.type? := by
  cases hSpelled with
  | object discriminator? attributes? hMembers hDiscriminator
      hAttributes =>
      have hAnyOrder :=
        EdgeType.orderless_form.readMembers_lists hMembers
          (budget + 3) ⟨none, none, none, none, none⟩
      have hNamesRead :=
        Reader.toOption_ifGiven_getD
          (DiscriminatorSpelled.reader (budget + 1))
          (show Reader.texts? [] = some [] from rfl) hDiscriminator
      have hAttributesRead :=
        Reader.toOption_ifGiven_getD
          (AttributeSketch.map_reader budget)
          (Entries.gather?_nil _) hAttributes
      unfold EdgeType.reader type?
      rw [Reader.toOption_checked_record,
        Checks.alike_iff.mp hAnyOrder, EdgeType.readMembers_given,
        ← hNamesRead, ← hAttributesRead]
      simp only [Checks.toOption_bind, Checks.toOption_pure,
        Checks.toOption_mapError, SchemaError.refuse,
        EdgeType.toOption_parts, Option.bind_assoc,
        Option.bind_eq_bind, Option.bind_some, Option.bind_map,
        Option.pure_def, Function.comp_def]
      apply Reader.bind_ifGiven (Reader.toOption_bool _)
      · simp only [Option.bind_none, Option.bind_fun_none]
      intro isDirected
      apply Reader.bind_ifGiven (Reader.toOption_string _)
      · simp only [Option.bind_none, Option.bind_fun_none]
      intro source
      apply Reader.bind_ifGiven (Reader.toOption_string _)
      · simp only [Option.bind_none, Option.bind_fun_none]
      intro target
      rfl

/- Spelled edge types are read as they are sketched. -/
theorem map_reader
    (budget : Nat)
    (d : Draft)
    (edges : Entries EdgeSketch)
    (hSpelled : Entries.Spelled Spelled d edges) :
    (Reader.map EdgeType.reader (budget + 5) d).toOption =
      edges.gather? type? := by
  apply hSpelled.reader
  intro d s hEdge
  exact hEdge.reader budget

end EdgeSketch

end GraphClient

------------------------------------------------------------
-- Reading Schemas
------------------------------------------------------------

namespace GraphClient

open Json (Draft Reader)

/- The parts of a schema are there if its slots are filled. -/
theorem Schema.toOption_parts
    (absent : String → Json.Misfit)
    (slots : Schema.Slots) :
    (slots.parts absent).toOption =
      slots.graphName.map (fun graphName =>
        ⟨graphName, slots.nodes.getD .empty,
          slots.edges.getD .empty⟩) := by
  rcases slots with ⟨graphName?, _, _⟩
  cases graphName? <;> rfl

namespace SchemaSketch

/- A spelled schema is read as it is sketched. -/
theorem Spelled.reader
    {d : Draft}
    {s : SchemaSketch}
    (hSpelled : Spelled d s)
    (budget : Nat) :
    (Schema.reader (budget + 6) d).toOption = s.schema? := by
  cases hSpelled with
  | object nodes? edges? hMembers hNodes hEdges =>
      have hAnyOrder :=
        Schema.orderless_form.readMembers_lists hMembers
          (budget + 5) ⟨none, none, none⟩
      have hNodesRead :=
        Reader.toOption_ifGiven_getD (NodeSketch.map_reader budget)
          (Entries.gather?_nil _) hNodes
      have hEdgesRead :=
        Reader.toOption_ifGiven_getD (EdgeSketch.map_reader budget)
          (Entries.gather?_nil _) hEdges
      unfold Schema.reader schema?
      rw [Reader.toOption_checked_record,
        Checks.alike_iff.mp hAnyOrder, Schema.readMembers_given,
        ← hNodesRead, ← hEdgesRead]
      simp only [Checks.toOption_bind, Checks.toOption_pure,
        Checks.toOption_mapError, SchemaError.refuse,
        Schema.toOption_parts, Option.bind_assoc,
        Option.bind_eq_bind, Option.bind_some, Option.bind_map,
        Function.comp_def]
      apply Reader.bind_ifGiven (Reader.toOption_string _)
      · simp only [Option.bind_none, Option.bind_fun_none]
      intro graphName
      rfl

/- A document is read as the graph is sketched. -/
theorem SpelledBy.load
    {text : String}
    {s : SchemaSketch}
    (hSpelled : s.SpelledBy text) :
    (Schema.load text).toOption = s.schema? := by
  rcases hSpelled with ⟨d, rest, hRead, hEnd, hObject⟩
  unfold Schema.load Schema.parse
  rw [Checks.toOption_mapError,
    Reader.run_eq Schema.reader hRead hEnd]
  exact hObject.reader 122

end SchemaSketch

end GraphClient
