import GraphClient.Proofs.Calendar.Texts
import GraphClient.Proofs.Json.Readers
import GraphClient.Proofs.Schema.Accepted
import GraphClient.Schema.Encoding
/-
  A written schema is read again.

  Key definitions include:
    * `GraphClient.Binary64.ReadsBack`
    * `GraphClient.Schema.EachDefault`
    * `GraphClient.Schema.reread`

  Key theorems include:
    * `GraphClient.AttributeType.reader_toJson`
    * `GraphClient.NodeType.reader_toJson`
    * `GraphClient.EdgeType.reader_toJson`
    * `GraphClient.Schema.reader_toJson`
    * `GraphClient.Schema.toJson_reread`

  A default that is a date comes back as the string of its text;
  everything else comes back as it was.  This needs that the
  text of a floating-point number is read as that number, which
  is not so of all of them.
-/

------------------------------------------------------------
-- Values
------------------------------------------------------------

namespace GraphClient

open Json (Reader)

/- A number whose text is read as the number. -/
structure Binary64.ReadsBack (x : Binary64) : Prop where
  isFinite : x.isFinite = true
  parse : Json.parse (Json.float x).compact = .ok (.float x)

/- Such a number is finite and the value of its own numeral. -/
theorem Binary64.readsBack_iff
    {x : Binary64} :
    x.ReadsBack ↔
      x.isFinite = true ∧ x.numeral.value? = some (.float x) := by
  have hOwn (hFinite : x.isFinite = true) :
      Json.ofFloat x = .float x := by
    rw [Json.ofFloat, if_pos hFinite]
  have hParse (hFinite : x.isFinite = true) :
      Json.parse (Json.float x).compact =
        Reader.any Reader.nestingLimit (.number x.numeral) := by
    unfold Json.parse
    rw [Reader.run_compact, Json.draft, Json.floatDraft,
      if_pos hFinite]
  constructor
  · rintro ⟨hFinite, hRead⟩
    rw [hParse hFinite] at hRead
    rcases Checks.bind_eq_ok_iff.mp hRead with
      ⟨value, hNumber, hValue⟩
    have hJson := Checks.pure_eq_ok_iff.mp hValue
    refine ⟨hFinite, ?_⟩
    rw [Reader.number_eq_ok_iff.mp hNumber]
    cases value with
    | int i => cases hJson
    | float y =>
        rw [Json.ofNumber, Json.ofFloat] at hJson
        by_cases hFound : y.isFinite = true
        · rw [if_pos hFound] at hJson
          rw [Json.float.inj hJson]
        · rw [if_neg hFound] at hJson
          cases hJson
  · rintro ⟨hFinite, hValue⟩
    refine ⟨hFinite, ?_⟩
    rw [hParse hFinite, Reader.any,
      Reader.number_eq_ok_iff.mpr hValue]
    exact congrArg Except.ok (hOwn hFinite)

instance
    (x : Binary64) :
    Decidable x.ReadsBack :=
  decidable_of_iff _ Binary64.readsBack_iff.symm

namespace Value

/- A value whose number, if it is one, is read back. -/
def ReadsBack : Value → Prop
| .float x => x.ReadsBack
| _ => True

/- A value that is no date. -/
def Dateless : Value → Prop
| .dateTime _ => False
| _ => True

instance : DecidablePred ReadsBack
| .bool _ => isTrue trivial
| .int _ => isTrue trivial
| .float x => inferInstanceAs (Decidable x.ReadsBack)
| .string _ => isTrue trivial
| .dateTime _ => isTrue trivial

/- What a value is after it has been written and read. -/
def reread : Value → Value
| .dateTime t => .string t.text
| v => v

/- A value that is no date stays as it is. -/
theorem reread_eq_self
    {v : Value}
    (hDateless : v.Dateless) :
    v.reread = v := by
  cases v with
  | dateTime t => exact hDateless.elim
  | _ => rfl

/- A value is written in the same way again. -/
theorem toJson_reread
    (v : Value) :
    v.reread.toJson = v.toJson := by
  cases v <;> rfl

/- A value is still accepted where it was accepted. -/
theorem accepts_reread
    {type : DataType}
    {v : Value}
    (hAccepts : type.accepts v = true) :
    type.accepts v.reread = true := by
  cases v with
  | dateTime t =>
      cases type with
      | dateTime => exact DataType.accepts_text t
      | _ => cases hAccepts
  | _ => exact hAccepts

/- An integer of 64 bits is read as itself. -/
theorem value?_toInt
    (n : Int64) :
    (Numeral.ofInt n.toInt).value? = some (.int n.toInt) := by
  have hLow := n.le_toInt
  have hHigh := n.toInt_lt
  have hWord : (2 : Int) ^ 63 ≤ Numeral.maxWord := by decide
  apply Numeral.value?_ofInt
  · exact hLow
  · omega

/- A written value spells itself. -/
theorem ofDraft?_toJson
    {v : Value}
    (hBack : v.ReadsBack) :
    ofDraft? v.toJson.draft = some v.reread := by
  cases v with
  | bool b => rfl
  | string s => rfl
  | dateTime t => rfl
  | int n =>
      have hFits : FitsWord n.toInt := ⟨n.le_toInt, n.toInt_lt⟩
      change (Numeral.ofInt n.toInt).value?.map ofNumber = _
      rw [value?_toInt, Option.map_some, ofNumber, if_pos hFits,
        Int64.ofInt_toInt]
      rfl
  | float x =>
      rcases Binary64.readsBack_iff.mp hBack with ⟨hFinite, hValue⟩
      rw [toJson, Json.ofFloat, if_pos hFinite, Json.draft,
        Json.floatDraft, if_pos hFinite, ofDraft?, hValue]
      rfl

/- A written value passes as JSON. -/
theorem passes_toJson
    {v : Value}
    (hBack : v.ReadsBack)
    (budget : Nat) :
    Reader.Passes budget v.toJson.draft := by
  cases v with
  | bool b => exact Reader.passes_bool budget b
  | string s => exact Reader.passes_string budget s
  | dateTime t => exact Reader.passes_string budget t.text
  | int n => exact Reader.passes_number budget (value?_toInt n)
  | float x =>
      rcases Binary64.readsBack_iff.mp hBack with ⟨hFinite, hValue⟩
      rw [toJson, Json.ofFloat, if_pos hFinite, Json.draft,
        Json.floatDraft, if_pos hFinite]
      exact Reader.passes_number budget hValue

end Value

end GraphClient

------------------------------------------------------------
-- Attributes
------------------------------------------------------------

namespace GraphClient

open Json (Reader)

/- A type is found by its keyword. -/
theorem DataType.ofKeyword?_keyword
    (type : DataType) :
    ofKeyword? type.keyword = some type := by
  cases type <;> rfl

/- A metric is found by its keyword. -/
theorem Metric.ofKeyword?_keyword
    (metric : Metric) :
    ofKeyword? metric.keyword = some metric := by
  cases metric <;> rfl

namespace AttributeType

/- A property of the default of an attribute, if it has one. -/
def EachDefault
    (P : Value → Prop)
    (type : AttributeType) :
    Prop :=
  ∀ value ∈ type.default?, P value

instance
    (P : Value → Prop)
    [DecidablePred P] :
    DecidablePred (EachDefault P) :=
  fun type =>
    inferInstanceAs (Decidable (∀ value ∈ type.default?, P value))

/- What an attribute is after it has been written and read. -/
def reread
    (type : AttributeType) :
    AttributeType :=
  ⟨type.dataType, type.default?.map Value.reread⟩

/- An attribute stays as it is when its default does. -/
theorem reread_eq_self
    {type : AttributeType}
    (hDateless : type.EachDefault Value.Dateless) :
    type.reread = type := by
  rcases type with ⟨dataType, default?⟩
  cases default? with
  | none => rfl
  | some value =>
      have hValue := Value.reread_eq_self (hDateless value rfl)
      unfold reread
      rw [Option.map_some, hValue]

/- An attribute is written in the same way again. -/
theorem toJson_reread
    (type : AttributeType) :
    type.reread.toJson = type.toJson := by
  rcases type with ⟨dataType, default?⟩
  cases default? with
  | none => rfl
  | some value =>
      simp only [reread, toJson, Option.map_some, Value.toJson_reread]

/- An attribute is still accepted. -/
theorem accepted_reread
    {name : String}
    {type : AttributeType}
    (hAccepted : Accepted name type) :
    Accepted name type.reread := by
  rcases hAccepted with ⟨hName, hDefault⟩
  refine ⟨hName, ?_⟩
  rcases type with ⟨dataType, default?⟩
  cases default? with
  | none => rfl
  | some value => exact Value.accepts_reread hDefault

/- The default of an attribute spells itself. -/
theorem defaultOfDraft?_toJson
    {v : Value}
    (hBack : v.ReadsBack) :
    defaultOfDraft? v.toJson.draft = some (some v.reread) := by
  have hDraft := Value.ofDraft?_toJson hBack
  unfold defaultOfDraft?
  split
  · next hNull =>
      rw [hNull] at hDraft
      cases hDraft
  · rw [hDraft]
    rfl

/- A written attribute passes as JSON. -/
theorem passes_toJson
    {type : AttributeType}
    (hBack : type.EachDefault Value.ReadsBack)
    (budget : Nat) :
    Reader.Passes (budget + 2) type.toJson.draft := by
  rcases type with ⟨dataType, default?⟩
  apply Reader.passes_object
  intro field hMem
  rcases List.mem_cons.mp hMem with rfl | hMem
  · exact Reader.passes_string _ _
  · cases default? with
    | none => cases hMem
    | some value =>
        rw [List.mem_singleton.mp hMem]
        exact Value.passes_toJson (hBack value rfl) _

/- A written attribute spells itself. -/
theorem ofDraft?_toJson
    {type : AttributeType}
    (hBack : type.EachDefault Value.ReadsBack) :
    ofDraft? type.toJson.draft = some type.reread := by
  rcases type with ⟨dataType, default?⟩
  have hType := DataType.ofKeyword?_keyword dataType
  cases default? with
  | none =>
      simp [toJson, Json.draft, Json.draftMembers, ofDraft?,
        DataType.ofDraft?, Reader.word?, ofMembers?, Reader.member,
        Reader.optional?, Reader.member?, reread, hType]
  | some value =>
      have hDefault := defaultOfDraft?_toJson (hBack value rfl)
      simp [toJson, Json.draft, Json.draftMembers, ofDraft?,
        DataType.ofDraft?, Reader.word?, ofMembers?, Reader.member,
        Reader.optional?, Reader.member?, reread, hType, hDefault]

/- A written attribute is read. -/
theorem reader_toJson
    {type : AttributeType}
    (hBack : type.EachDefault Value.ReadsBack)
    (budget : Nat) :
    reader (budget + 2) type.toJson.draft = .ok type.reread :=
  Reader.variant_eq_ok (passes_toJson hBack budget)
    (ofDraft?_toJson hBack)

end AttributeType

end GraphClient

------------------------------------------------------------
-- Vectors
------------------------------------------------------------

namespace GraphClient

open Json (Reader)

namespace VectorType

/- The numeral of a dimension has it as its value. -/
theorem value?_dimension
    (dimension : UInt32) :
    (Numeral.ofInt dimension.toNat).value? =
      some (.int dimension.toNat) := by
  have hLt := dimension.toNat_lt
  have hWord : 2 ^ 32 ≤ Numeral.maxWord := by decide
  apply Numeral.value?_ofInt
  · omega
  · omega

/- A written vector passes as JSON. -/
theorem passes_toJson
    (type : VectorType)
    (budget : Nat) :
    Reader.Passes (budget + 2) type.toJson.draft := by
  apply Reader.passes_object
  intro field hMem
  simp only [List.mem_cons, List.not_mem_nil, or_false] at hMem
  rcases hMem with rfl | rfl | rfl | rfl
  · exact Reader.passes_number _ (value?_dimension type.dimension)
  · exact Reader.passes_string _ _
  · exact Reader.passes_string _ _
  · exact Reader.passes_string _ _

/- A written dimension spells itself. -/
theorem dimensionOfDraft?_toNat
    (dimension : UInt32) :
    dimensionOfDraft? (.number (Numeral.ofInt dimension.toNat)) =
      some dimension := by
  have hLt := dimension.toNat_lt
  have hRange :
      (0 : Int) ≤ dimension.toNat ∧
        (dimension.toNat : Int).toNat < Nat.pow 2 32 :=
    ⟨Int.natCast_nonneg _, hLt⟩
  simp only [dimensionOfDraft?, value?_dimension]
  rw [if_pos hRange, Int.toNat_natCast, UInt32.ofNat_toNat]

/- A written vector spells itself. -/
theorem ofDraft?_toJson
    (type : VectorType) :
    ofDraft? type.toJson.draft = some type := by
  have hMetric := Metric.ofKeyword?_keyword type.metric
  have hDimension := dimensionOfDraft?_toNat type.dimension
  simp [toJson, Json.draft, Json.draftMembers, ofDraft?,
    Metric.ofDraft?, Reader.word?, ofMembers?, Reader.member,
    Reader.optional?, Reader.member?, stringOfDraft?, hMetric,
    hDimension]
  rfl

/- A written vector is read, if it has a dimension. -/
theorem reader_toJson
    {type : VectorType}
    (hDimension : type.dimension ≠ 0)
    (budget : Nat) :
    reader (budget + 2) type.toJson.draft = .ok type := by
  apply Reader.checked_eq_ok
    (Reader.variant_eq_ok (passes_toJson type budget)
      (ofDraft?_toJson type))
  rw [if_neg hDimension]

end VectorType

end GraphClient

------------------------------------------------------------
-- Node Types
------------------------------------------------------------

namespace GraphClient

open Json (Reader RecordForm)

/- A written map is read when all of its values are. -/
theorem OrderedMap.reader_toJson
    {α β : Type}
    {reader : Reader β}
    {budget : Nat}
    {m : OrderedMap α}
    {item : α → Json}
    {value : α → β}
    (hItems :
      ∀ entry ∈ m.entries,
        reader (budget + 1) (item entry.2).draft =
          .ok (value entry.2)) :
    Reader.map reader (budget + 2) (m.toJson item).draft =
      .ok (m.map value) := by
  have hRead := Reader.map_eq_ok hItems
  have hMap :
      OrderedMap.ofList
          (m.entries.map (fun entry => (entry.1, value entry.2))) =
        m.map value :=
    OrderedMap.ofList_entries (m.map value)
  rw [hMap] at hRead
  exact hRead

/- A map is written in the same way when its values are. -/
theorem OrderedMap.toJson_map
    {α : Type}
    {item : α → Json}
    {value : α → α}
    (m : OrderedMap α)
    (hItems : ∀ a, item (value a) = item a) :
    (m.map value).toJson item = m.toJson item := by
  unfold toJson map
  rw [List.map_map]
  simp only [Function.comp_def, hItems]

/- Attributes that are accepted are so after they were reread. -/
theorem AttributeType.accepted_map
    {attributes : OrderedMap AttributeType}
    (hAccepted :
      ∀ entry ∈ attributes.entries,
        AttributeType.Accepted entry.1 entry.2) :
    ∀ entry ∈ (attributes.map AttributeType.reread).entries,
      AttributeType.Accepted entry.1 entry.2 := by
  intro entry hMem
  rcases List.mem_map.mp hMem with ⟨first, hFirst, rfl⟩
  exact accepted_reread (hAccepted first hFirst)

/- Written attributes are read. -/
theorem AttributeType.map_reader_toJson
    {attributes : OrderedMap AttributeType}
    (hBack :
      ∀ entry ∈ attributes.entries,
        entry.2.EachDefault Value.ReadsBack)
    (budget : Nat) :
    Reader.map reader (budget + 3)
        (attributes.toJson AttributeType.toJson).draft =
      .ok (attributes.map AttributeType.reread) :=
  OrderedMap.reader_toJson (fun entry hMem =>
    reader_toJson (hBack entry hMem) budget)

namespace NodeType

/- A property of the defaults of a node type. -/
def EachDefault
    (P : Value → Prop)
    (type : NodeType) :
    Prop :=
  ∀ entry ∈ type.attributes.entries, entry.2.EachDefault P

instance
    (P : Value → Prop)
    [DecidablePred P] :
    DecidablePred (EachDefault P) :=
  fun type =>
    inferInstanceAs (Decidable
      (∀ entry ∈ type.attributes.entries, entry.2.EachDefault P))

/- What a node type is after it has been written and read. -/
def reread
    (type : NodeType) :
    NodeType where
  primaryKey := type.primaryKey
  attributes := type.attributes.map AttributeType.reread
  vectors := type.vectors
  accepted := by
    rcases check_eq_ok_iff.mp type.accepted with
      ⟨hAttributes, hKey, hVectors⟩
    rw [check_eq_ok_iff, OrderedMap.contains_map]
    exact ⟨AttributeType.accepted_map hAttributes, hKey, hVectors⟩

/- A node type that is made is the one of its parts. -/
theorem make_eq_ok
    (type : NodeType) :
    make type.primaryKey type.attributes type.vectors = .ok type := by
  have hAccepted := type.accepted
  unfold make
  split
  · rfl
  · next hError =>
      rw [hAccepted] at hError
      cases hError

/- The members of a written node type fill its slots. -/
theorem readMembers_toJson
    {type : NodeType}
    (hBack : type.EachDefault Value.ReadsBack)
    (budget : Nat) :
    ∃ vectors : Option (OrderedMap VectorType),
      vectors.getD .empty = type.vectors ∧
        form.readMembers (budget + 3)
          (Json.draftMembers
            (("primary_key", .string type.primaryKey) ::
              ("attributes",
                type.attributes.toJson AttributeType.toJson) ::
              Json.fieldUnless type.vectors.isEmpty
                "vector_attributes"
                (type.vectors.toJson VectorType.toJson)))
          ⟨none, none, none⟩ =
        .ok ⟨some type.primaryKey,
          some (type.attributes.map AttributeType.reread),
          vectors⟩ := by
  have hKey := Reader.string_draft (budget + 3) type.primaryKey
  have hAttributes := AttributeType.map_reader_toJson hBack budget
  rw [Json.draftMembers, Json.draftMembers,
    RecordForm.readMembers_of rfl hKey rfl,
    RecordForm.readMembers_of rfl hAttributes rfl]
  cases hEmpty : type.vectors.isEmpty with
  | true =>
      refine ⟨none, ?_, rfl⟩
      exact (OrderedMap.eq_empty_of_isEmpty hEmpty).symm
  | false =>
      have hAccepted := (check_eq_ok_iff.mp type.accepted).2.2
      have hVectors :
          Reader.map VectorType.reader (budget + 3)
              (type.vectors.toJson VectorType.toJson).draft =
            .ok (type.vectors.map id) :=
        OrderedMap.reader_toJson (fun entry hMem =>
          VectorType.reader_toJson (hAccepted entry hMem).2 budget)
      rw [OrderedMap.map_eq_self (fun _ _ => rfl)] at hVectors
      refine ⟨some type.vectors, rfl, ?_⟩
      rw [Json.fieldUnless, if_neg (by simp), Json.draftMembers,
        RecordForm.readMembers_of rfl hVectors rfl]
      rfl

/- A written node type is read. -/
theorem reader_toJson
    {type : NodeType}
    (hBack : type.EachDefault Value.ReadsBack)
    (budget : Nat) :
    reader (budget + 4) type.toJson.draft = .ok type.reread := by
  rcases readMembers_toJson hBack budget with
    ⟨vectors, hVectors, hMembers⟩
  have hRecord :
      Reader.record form ⟨none, none, none⟩
          (fun _ slots => .ok slots) (budget + 4) type.toJson.draft =
        .ok ⟨some type.primaryKey,
          some (type.attributes.map AttributeType.reread),
          vectors⟩ :=
    Reader.record_eq hMembers
  have hMake := make_eq_ok type.reread
  apply Reader.checked_eq_ok hRecord
  rw [hVectors]
  exact congrArg SchemaError.refuse hMake

/- A node type stays as it is when its defaults do. -/
theorem reread_eq_self
    {type : NodeType}
    (hDateless : type.EachDefault Value.Dateless) :
    type.reread = type := by
  have hAttributes :
      type.attributes.map AttributeType.reread = type.attributes :=
    OrderedMap.map_eq_self (fun entry hMem =>
      AttributeType.reread_eq_self (hDateless entry hMem))
  cases type
  simp only [reread, hAttributes]

/- A node type is written in the same way again. -/
theorem toJson_reread
    (type : NodeType) :
    type.reread.toJson = type.toJson := by
  have hAttributes :=
    OrderedMap.toJson_map type.attributes AttributeType.toJson_reread
  simp only [reread, toJson, hAttributes]

end NodeType

end GraphClient

------------------------------------------------------------
-- Edge Types
------------------------------------------------------------

namespace GraphClient

open Json (Reader RecordForm)

namespace EdgeType

/- A property of the defaults of an edge type. -/
def EachDefault
    (P : Value → Prop)
    (type : EdgeType) :
    Prop :=
  ∀ entry ∈ type.attributes.entries, entry.2.EachDefault P

instance
    (P : Value → Prop)
    [DecidablePred P] :
    DecidablePred (EachDefault P) :=
  fun type =>
    inferInstanceAs (Decidable
      (∀ entry ∈ type.attributes.entries, entry.2.EachDefault P))

/- What an edge type is after it has been written and read. -/
def reread
    (type : EdgeType) :
    EdgeType where
  isDirected := type.isDirected
  source := type.source
  target := type.target
  discriminator := type.discriminator
  attributes := type.attributes.map AttributeType.reread
  accepted := by
    rcases check_eq_ok_iff.mp type.accepted with
      ⟨hAttributes, hNames⟩
    simp only [check_eq_ok_iff, OrderedMap.contains_map]
    exact ⟨AttributeType.accepted_map hAttributes, hNames⟩

/- An edge type that is made is the one of its parts. -/
theorem make_eq_ok
    (type : EdgeType) :
    make type.isDirected type.source type.target
        type.discriminator type.attributes =
      .ok type := by
  have hAccepted := type.accepted
  unfold make
  split
  · rfl
  · next hError =>
      rw [hAccepted] at hError
      cases hError

/- The texts of written strings are the strings. -/
theorem texts?_strings
    (names : List String) :
    Reader.texts? (Json.drafts (names.map .string)) =
      some names := by
  induction names with
  | nil => rfl
  | cons name names ih =>
      rw [List.map_cons, Json.drafts, Json.draft, Reader.texts?, ih]
      rfl

/- Written discriminators are read. -/
theorem discriminatorReader_strings
    (names : List String)
    (budget : Nat) :
    discriminatorReader (budget + 2) (Json.strings names).draft =
      .ok names := by
  have hPasses :
      Reader.Passes (budget + 2) (Json.strings names).draft := by
    apply Reader.passes_array
    intro item hMem
    rcases List.mem_map.mp hMem with ⟨name, _, rfl⟩
    exact Reader.passes_string _ name
  exact Reader.variant_eq_ok hPasses (texts?_strings names)

/- The members of a written edge type fill its slots. -/
theorem readMembers_toJson
    {type : EdgeType}
    (hBack : type.EachDefault Value.ReadsBack)
    (budget : Nat) :
    ∃ names : Option (List String),
      names.getD [] = type.discriminator ∧
        form.readMembers (budget + 3)
          (Json.draftMembers
            (("is_directed_edge", .bool type.isDirected) ::
              ("from_node_type", .string type.source) ::
              ("to_node_type", .string type.target) ::
              (Json.fieldUnless type.discriminator.isEmpty
                "discriminator" (Json.strings type.discriminator) ++
              [("attributes",
                type.attributes.toJson AttributeType.toJson)])))
          ⟨none, none, none, none, none⟩ =
        .ok ⟨some type.isDirected, some type.source,
          some type.target, names,
          some (type.attributes.map AttributeType.reread)⟩ := by
  have hDirected := Reader.bool_draft (budget + 3) type.isDirected
  have hSource := Reader.string_draft (budget + 3) type.source
  have hTarget := Reader.string_draft (budget + 3) type.target
  have hAttributes := AttributeType.map_reader_toJson hBack budget
  rw [Json.draftMembers, Json.draftMembers, Json.draftMembers,
    RecordForm.readMembers_of rfl hDirected rfl,
    RecordForm.readMembers_of rfl hSource rfl,
    RecordForm.readMembers_of rfl hTarget rfl]
  cases hEmpty : type.discriminator.isEmpty with
  | true =>
      refine ⟨none, (List.isEmpty_iff.mp hEmpty).symm, ?_⟩
      rw [Json.fieldUnless, if_pos rfl, List.nil_append,
        Json.draftMembers,
        RecordForm.readMembers_of rfl hAttributes rfl]
      rfl
  | false =>
      have hNames :=
        discriminatorReader_strings type.discriminator (budget + 1)
      refine ⟨some type.discriminator, rfl, ?_⟩
      rw [Json.fieldUnless, if_neg (by simp), List.singleton_append,
        Json.draftMembers, Json.draftMembers,
        RecordForm.readMembers_of rfl hNames rfl,
        RecordForm.readMembers_of rfl hAttributes rfl]
      rfl

/- A written edge type is read. -/
theorem reader_toJson
    {type : EdgeType}
    (hBack : type.EachDefault Value.ReadsBack)
    (budget : Nat) :
    reader (budget + 4) type.toJson.draft = .ok type.reread := by
  rcases readMembers_toJson hBack budget with
    ⟨names, hNames, hMembers⟩
  have hRecord :
      Reader.record form ⟨none, none, none, none, none⟩ Slots.parts
          (budget + 4) type.toJson.draft =
        .ok ⟨type.isDirected, type.source, type.target,
          names.getD [],
          type.attributes.map AttributeType.reread⟩ :=
    Reader.record_eq hMembers
  rw [hNames] at hRecord
  have hMake := make_eq_ok type.reread
  exact Reader.checked_eq_ok hRecord
    (congrArg SchemaError.refuse hMake)

/- An edge type stays as it is when its defaults do. -/
theorem reread_eq_self
    {type : EdgeType}
    (hDateless : type.EachDefault Value.Dateless) :
    type.reread = type := by
  have hAttributes :
      type.attributes.map AttributeType.reread = type.attributes :=
    OrderedMap.map_eq_self (fun entry hMem =>
      AttributeType.reread_eq_self (hDateless entry hMem))
  cases type
  simp only [reread, hAttributes]

/- An edge type is written in the same way again. -/
theorem toJson_reread
    (type : EdgeType) :
    type.reread.toJson = type.toJson := by
  have hAttributes :=
    OrderedMap.toJson_map type.attributes AttributeType.toJson_reread
  simp only [reread, toJson, hAttributes]

end EdgeType

end GraphClient

------------------------------------------------------------
-- Schemas
------------------------------------------------------------

namespace GraphClient

open Json (Reader RecordForm)

namespace Schema

/- A property of the defaults of a schema. -/
structure EachDefault
    (P : Value → Prop)
    (schema : Schema) : Prop where
  nodes : ∀ entry ∈ schema.nodes.entries, entry.2.EachDefault P
  edges : ∀ entry ∈ schema.edges.entries, entry.2.EachDefault P

instance
    (P : Value → Prop)
    [DecidablePred P] :
    DecidablePred (EachDefault P) :=
  fun schema =>
    decidable_of_iff
      ((∀ entry ∈ schema.nodes.entries, entry.2.EachDefault P) ∧
        ∀ entry ∈ schema.edges.entries, entry.2.EachDefault P)
      ⟨fun hBoth => ⟨hBoth.1, hBoth.2⟩,
        fun hEach => ⟨hEach.nodes, hEach.edges⟩⟩

/- What a schema is after it has been written and read. -/
def reread
    (schema : Schema) :
    Schema where
  graphName := schema.graphName
  nodes := schema.nodes.map NodeType.reread
  edges := schema.edges.map EdgeType.reread
  accepted := by
    have hEdges := check_eq_ok_iff.mp schema.accepted
    rw [check_eq_ok_iff]
    intro entry hMem
    rcases List.mem_map.mp hMem with ⟨first, hFirst, rfl⟩
    rw [OrderedMap.contains_map, OrderedMap.contains_map]
    exact hEdges first hFirst

/- A schema that is made is the one of its parts. -/
theorem make_eq_ok
    (schema : Schema) :
    make schema.graphName schema.nodes schema.edges = .ok schema := by
  have hAccepted := schema.accepted
  unfold make
  split
  · rfl
  · next hError =>
      rw [hAccepted] at hError
      cases hError

/- A written schema is read. -/
theorem reader_toJson
    {schema : Schema}
    (hBack : schema.EachDefault Value.ReadsBack)
    (budget : Nat) :
    reader (budget + 6) schema.toJson.draft = .ok schema.reread := by
  have hName := Reader.string_draft (budget + 5) schema.graphName
  have hNodes :
      Reader.map NodeType.reader (budget + 5)
          (schema.nodes.toJson NodeType.toJson).draft =
        .ok (schema.nodes.map NodeType.reread) :=
    OrderedMap.reader_toJson (fun entry hMem =>
      NodeType.reader_toJson (hBack.nodes entry hMem) budget)
  have hEdges :
      Reader.map EdgeType.reader (budget + 5)
          (schema.edges.toJson EdgeType.toJson).draft =
        .ok (schema.edges.map EdgeType.reread) :=
    OrderedMap.reader_toJson (fun entry hMem =>
      EdgeType.reader_toJson (hBack.edges entry hMem) budget)
  have hMembers :
      form.readMembers (budget + 5)
          (Json.draftMembers
            [("graph_name", .string schema.graphName),
              ("nodes", schema.nodes.toJson NodeType.toJson),
              ("edges", schema.edges.toJson EdgeType.toJson)])
          ⟨none, none, none⟩ =
        .ok ⟨some schema.graphName,
          some (schema.nodes.map NodeType.reread),
          some (schema.edges.map EdgeType.reread)⟩ := by
    rw [Json.draftMembers, Json.draftMembers, Json.draftMembers,
      RecordForm.readMembers_of rfl hName rfl,
      RecordForm.readMembers_of rfl hNodes rfl,
      RecordForm.readMembers_of rfl hEdges rfl]
    rfl
  have hRecord :
      Reader.record form ⟨none, none, none⟩ Slots.parts
          (budget + 6) schema.toJson.draft =
        .ok ⟨schema.graphName, schema.nodes.map NodeType.reread,
          schema.edges.map EdgeType.reread⟩ :=
    Reader.record_eq hMembers
  have hMake := make_eq_ok schema.reread
  exact Reader.checked_eq_ok hRecord
    (congrArg SchemaError.refuse hMake)

/- The text of a schema is read. -/
theorem parse_text_of_readsBack
    {schema : Schema}
    (hBack : schema.EachDefault Value.ReadsBack) :
    parse schema.text = .ok schema.reread := by
  unfold parse text
  rw [Reader.run_pretty]
  exact reader_toJson hBack 122

/- A schema stays as it is when its defaults do. -/
theorem reread_eq_self
    {schema : Schema}
    (hDateless : schema.EachDefault Value.Dateless) :
    schema.reread = schema := by
  have hNodes :
      schema.nodes.map NodeType.reread = schema.nodes :=
    OrderedMap.map_eq_self (fun entry hMem =>
      NodeType.reread_eq_self (hDateless.nodes entry hMem))
  have hEdges :
      schema.edges.map EdgeType.reread = schema.edges :=
    OrderedMap.map_eq_self (fun entry hMem =>
      EdgeType.reread_eq_self (hDateless.edges entry hMem))
  cases schema
  simp only [reread, hNodes, hEdges]

/- A schema is written in the same way again. -/
theorem toJson_reread
    (schema : Schema) :
    schema.reread.toJson = schema.toJson := by
  have hNodes :=
    OrderedMap.toJson_map schema.nodes NodeType.toJson_reread
  have hEdges :=
    OrderedMap.toJson_map schema.edges EdgeType.toJson_reread
  simp only [reread, toJson, hNodes, hEdges]

/- The text of a schema is the same again. -/
theorem text_reread
    (schema : Schema) :
    schema.reread.text = schema.text := by
  unfold text
  rw [toJson_reread]

end Schema

end GraphClient
