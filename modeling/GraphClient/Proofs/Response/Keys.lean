import GraphClient.Proofs.Attribute.Encodings
import GraphClient.Proofs.Response.Records
import GraphClient.Proofs.Schema.Definition
import GraphClient.Remote.Store
import GraphClient.Response.Identity
/-
  What the key of an edge tells.

  Key definitions include:
    * `GraphClient.Record.SameEnds`
    * `GraphClient.Record.valueOf`
    * `GraphClient.EdgeKey.Tells`
    * `GraphClient.Response.edgeRecords`
    * `GraphClient.EdgeType.identity?`
    * `GraphClient.Schema.bank`

  Key theorems include:
    * `GraphClient.Response.exists_edgeKey`
    * `GraphClient.EdgeKey.rel_combine_iff`
    * `GraphClient.Response.edgeKeys_eq_iff`
    * `GraphClient.Response.edgeKeys_read_back`

  A key has the texts of the two ends, and the values of the
  discriminators of the type that its record names.  Edges of
  one type with the same key agree in all of these, and an edge
  that was stored has the key of the values it was stored with.
-/

------------------------------------------------------------
-- Records and Their Keys
------------------------------------------------------------

namespace GraphClient

namespace Record

/- Two records whose edges have ends that read as the same texts. -/
structure SameEnds
    (record other : Json) :
    Prop where
  source :
    ∃ text, EndReads record "from_id" text ∧
      EndReads other "from_id" text
  target :
    ∃ text, EndReads record "to_id" text ∧
      EndReads other "to_id" text

/- The value of an attribute of a record; a missing one is null. -/
def valueOf
    (record : Json)
    (name : String) :
    Json :=
  ((record.field? "attributes").bind
    (fun attributes => attributes.field? name)).getD .null

/- The values of some attributes, as a key has them. -/
def identity?
    (record : Json)
    (names : List String) :
    Option Json :=
  EdgeKey.combine (names.map (valueOf record))

end Record

namespace EdgeKey

/-
  What a key tells of a record: its ends, and the values of the
  discriminators of its type, if this is one of the schema.
-/
structure Tells
    (schema : Schema)
    (record : Json)
    (key : EdgeKey) :
    Prop where
  source : Record.EndReads record "from_id" key.source
  target : Record.EndReads record "to_id" key.target
  typed : ∀ name type,
    record.field? "e_type" = some (.string name) →
      schema.edges.get? name = some type →
        key.discriminator? =
          Record.identity? record type.discriminator
  untyped : ∀ name,
    record.field? "e_type" = some (.string name) →
      schema.edges.get? name = none →
        key.discriminator? = none

/- The values that a key is made of are those of the record. -/
theorem attribute_eq_valueOf
    {fields : Entries Json}
    {edge : EdgeRecord}
    (hDescribes : edge.Describes fields)
    (name : String) :
    (edge.attributes.lookup name).getD .null =
      Record.valueOf (.object fields) name := by
  rw [Record.hasAttributes_iff.mp hDescribes.attributes,
    Record.valueOf, Record.attributes?]
  cases (Json.object fields).field? "attributes" with
  | none => rfl
  | some value => cases value <;> rfl

/- The key of an edge tells of the record that describes it. -/
theorem tells_ofRecord
    {schema : Schema}
    {fields : Entries Json}
    {edge : EdgeRecord}
    (hDescribes : edge.Describes fields) :
    (ofRecord schema edge).Tells schema (.object fields) where
  source := hDescribes.source
  target := hDescribes.target
  typed name type hName hType := by
    change Entries.lookup "e_type" fields = some (.string name) at hName
    simp only [ofRecord, discriminators, hDescribes.same, hName,
      Option.bind_some, Json.string?, hType, Record.identity?,
      attribute_eq_valueOf hDescribes]
  untyped name hName hType := by
    change Entries.lookup "e_type" fields = some (.string name) at hName
    simp only [ofRecord, discriminators, hDescribes.same, hName,
      Option.bind_some, Json.string?, hType]
    rfl

end EdgeKey

namespace Response

/- The records of edges in a response, in order. -/
def edgeRecords
    (response : Response) :
    List Json :=
  response.records.filter (fun record => Record.IsEdge record)

/- They are records of edges. -/
theorem isEdge_of_mem_edgeRecords
    {response : Response}
    {record : Json}
    (hMem : record ∈ response.edgeRecords) :
    Record.IsEdge record :=
  of_decide_eq_true (List.mem_filter.mp hMem).2

/- There is a key for each record of an edge, in order. -/
theorem forall₂_edgeKeys
    (schema : Schema)
    (response : Response) :
    List.Forall₂ (fun record key => EdgeKey.Tells schema record key)
      response.edgeRecords (response.edgeKeys schema) := by
  rw [edgeKeys, List.forall₂_map_right_iff]
  apply (EdgeRecord.forall₂_all response).imp
  rintro record edge ⟨fields, rfl, hDescribes⟩
  exact EdgeKey.tells_ofRecord hDescribes

/- The key at the place of a record tells of it. -/
theorem exists_edgeKey
    (schema : Schema)
    {response : Response}
    {i : Nat}
    {record : Json}
    (hRecord : response.edgeRecords[i]? = some record) :
    ∃ key,
      (response.edgeKeys schema)[i]? = some key ∧
        key.Tells schema record :=
  exists_getElem?_of_forall₂ (forall₂_edgeKeys schema response)
    hRecord

end Response

end GraphClient

------------------------------------------------------------
-- Equal Keys
------------------------------------------------------------

namespace GraphClient

namespace Json

/- Lists have equal items when they are equal item by item. -/
theorem equalItems_iff
    {xs ys : List Json} :
    equalItems xs ys = true ↔
      List.Forall₂ (fun x y => equals x y = true) xs ys := by
  induction xs generalizing ys with
  | nil => cases ys <;> simp [equalItems]
  | cons x xs ih => cases ys <;> simp [equalItems, ih]

/- Options are equal when both are missing, or their values equal. -/
theorem equalOptions_iff
    {x? y? : Option Json} :
    equalOptions x? y? = true ↔
      Option.Rel (fun x y => equals x y = true) x? y? := by
  cases x? <;> cases y? <;> simp [equalOptions]

end Json

namespace EdgeKey

/-
  As many values are combined to related ones when they are
  related one by one, for arrays that are related item by item.
-/
theorem rel_combine_iff
    {R : Json → Json → Prop}
    (hArray : ∀ xs ys,
      R (.array xs) (.array ys) ↔ List.Forall₂ R xs ys)
    {xs ys : List Json}
    (hLength : xs.length = ys.length) :
    Option.Rel R (combine xs) (combine ys) ↔
      List.Forall₂ R xs ys := by
  match xs, ys, hLength with
  | [], [], _ => simp [combine]
  | [x], [y], _ => simp [combine]
  | x :: x' :: xs, y :: y' :: ys, _ =>
      exact Option.rel_some_some.trans (hArray _ _)

/- The values of two records are compared name by name. -/
theorem rel_identity?_iff
    {R : Json → Json → Prop}
    (hArray : ∀ xs ys,
      R (.array xs) (.array ys) ↔ List.Forall₂ R xs ys)
    (names : List String)
    (record other : Json) :
    Option.Rel R
        (Record.identity? record names)
        (Record.identity? other names) ↔
      ∀ name ∈ names,
        R (Record.valueOf record name)
          (Record.valueOf other name) := by
  unfold Record.identity?
  rw [rel_combine_iff hArray (by simp), List.forall₂_map_left_iff,
    List.forall₂_map_right_iff, List.forall₂_same]

/- What is equal is equal as an option. -/
theorem rel_eq_iff
    {x? y? : Option Json} :
    Option.Rel Eq x? y? ↔ x? = y? := by
  cases x? <;> cases y? <;> simp

variable {schema : Schema}
variable {record other : Json}
variable {key otherKey : EdgeKey}

/- Records have the same ends when their keys do. -/
theorem Tells.sameEnds_iff
    (hKey : key.Tells schema record)
    (hOther : otherKey.Tells schema other) :
    Record.SameEnds record other ↔
      key.source = otherKey.source ∧
        key.target = otherKey.target := by
  constructor
  · rintro ⟨⟨source, hFrom, hOtherFrom⟩, target, hTo, hOtherTo⟩
    exact ⟨(hKey.source.unique hFrom).trans
        (hOtherFrom.unique hOther.source),
      (hKey.target.unique hTo).trans
        (hOtherTo.unique hOther.target)⟩
  · rintro ⟨hSource, hTarget⟩
    exact ⟨⟨key.source, hKey.source, hSource ▸ hOther.source⟩,
      key.target, hKey.target, hTarget ▸ hOther.target⟩

/- Keys are the same when their parts are. -/
theorem eq_iff :
    key = otherKey ↔
      (key.source = otherKey.source ∧
          key.target = otherKey.target) ∧
        Option.Rel Eq key.discriminator?
          otherKey.discriminator? := by
  rw [rel_eq_iff]
  cases key
  cases otherKey
  simp [and_assoc]

/- Keys are equal when their parts are. -/
theorem equals_iff :
    key.equals otherKey = true ↔
      (key.source = otherKey.source ∧
          key.target = otherKey.target) ∧
        Option.Rel (fun x y => Json.equals x y = true)
          key.discriminator? otherKey.discriminator? := by
  simp [equals, Json.equalOptions_iff]

end EdgeKey

end GraphClient

------------------------------------------------------------
-- Identity within a Type
------------------------------------------------------------

namespace GraphClient

namespace Response

/-
  Two records of edges of one type of the schema, anywhere in any
  responses, have the same key exactly when their ends have the
  same texts and they have the same values for each discriminator
  of the type, a missing one being null.  They have equal keys
  exactly when these values are equal.
-/
theorem edgeKeys_eq_iff
    (schema : Schema)
    {name : String}
    {type : EdgeType}
    (hType : schema.edges.get? name = some type)
    {first second : Response}
    {i j : Nat}
    {record other : Json}
    (hRecord : first.edgeRecords[i]? = some record)
    (hOther : second.edgeRecords[j]? = some other)
    (hName : record.field? "e_type" = some (.string name))
    (hOtherName : other.field? "e_type" = some (.string name)) :
    ∃ key otherKey,
      (first.edgeKeys schema)[i]? = some key ∧
        (second.edgeKeys schema)[j]? = some otherKey ∧
        (key = otherKey ↔
          Record.SameEnds record other ∧
            ∀ d ∈ type.discriminator,
              Record.valueOf record d = Record.valueOf other d) ∧
        (key.equals otherKey = true ↔
          Record.SameEnds record other ∧
            ∀ d ∈ type.discriminator,
              Json.equals (Record.valueOf record d)
                (Record.valueOf other d) = true) := by
  rcases exists_edgeKey schema hRecord with ⟨key, hKey, hTells⟩
  rcases exists_edgeKey schema hOther with
    ⟨otherKey, hOtherKey, hOtherTells⟩
  have hEnds := hTells.sameEnds_iff hOtherTells
  have hSame (xs ys : List Json) :
      Json.array xs = Json.array ys ↔ List.Forall₂ Eq xs ys := by
    rw [Json.array.injEq, List.forall₂_eq_eq_eq]
  have hEqual (xs ys : List Json) :
      Json.equals (.array xs) (.array ys) = true ↔
        List.Forall₂ (fun x y => Json.equals x y = true) xs ys := by
    rw [Json.equals, Json.equalItems_iff]
  refine ⟨key, otherKey, hKey, hOtherKey, ?_, ?_⟩
  · rw [EdgeKey.eq_iff, hEnds, hTells.typed name type hName hType,
      hOtherTells.typed name type hOtherName hType,
      EdgeKey.rel_identity?_iff hSame]
  · rw [EdgeKey.equals_iff, hEnds, hTells.typed name type hName hType,
      hOtherTells.typed name type hOtherName hType,
      EdgeKey.rel_identity?_iff hEqual]

end Response

/- Transfers, told apart by a day and a number on that day. -/
def EdgeType.transfer : EdgeType where
  isDirected := false
  source := "Customer"
  target := "Customer"
  discriminator := ["day", "turn"]
  attributes :=
    .ofList [("day", .plain .dateTime), ("turn", .plain .int)]
  accepted := by decide +kernel

/- The schema of a bank whose customers transfer money. -/
def Schema.bank : Schema where
  graphName := "Bank"
  nodes := .ofList [("Customer", .customer)]
  edges := .ofList [("Transfers", .transfer)]
  accepted := by decide +kernel

namespace Response

/- A record of a transfer. -/
def transfer
    (source target : Json)
    (attributes : Entries Json) :
    Json :=
  .object
    [("attributes", .object attributes),
      ("e_type", .string "Transfers"),
      ("from_id", source),
      ("to_id", target)]

/- A transfer without a number, its day given as an array. -/
def unnumbered : Json :=
  transfer (.int 7) (.string "8")
    [("day", .array [.string "Mon", .null])]

/- The same, with other kinds of ids, and null as its number. -/
def renumbered : Json :=
  transfer (.string "7") (.int 8)
    [("turn", .null), ("day", .array [.string "Mon", .null])]

/- A transfer with the day and the number one level apart. -/
def regrouped : Json :=
  transfer (.string "7") (.int 8)
    [("turn", .array [.null]), ("day", .string "Mon")]

/- A transfer without a number that goes elsewhere. -/
def redirected : Json :=
  transfer (.int 7) (.string "08")
    [("day", .array [.string "Mon", .null])]

/- These transfers, with something that is none among them. -/
def transfers : Response :=
  [[("Edges",
    .array [unnumbered, .null, renumbered, regrouped, redirected])]]

/-
  The number and the text of an id are the same end, and a value
  that is missing is one that is null.  What is in a value is not
  taken for another value, and an id that is written with another
  digit is another end.
-/
theorem edgeKeys_eq_iff_transfers :
    (∃ key otherKey,
      (transfers.edgeKeys .bank)[0]? = some key ∧
        (transfers.edgeKeys .bank)[1]? = some otherKey ∧
        key = otherKey) ∧
      (∃ key otherKey,
        (transfers.edgeKeys .bank)[1]? = some key ∧
          (transfers.edgeKeys .bank)[2]? = some otherKey ∧
          key.equals otherKey = false) ∧
      ∃ key otherKey,
        (transfers.edgeKeys .bank)[1]? = some key ∧
          (transfers.edgeKeys .bank)[3]? = some otherKey ∧
          key ≠ otherKey ∧ key.equals otherKey = false := by
  have hType : Schema.bank.edges.get? "Transfers" = some .transfer :=
    rfl
  have hRecords :
      transfers.edgeRecords =
        [unnumbered, renumbered, regrouped, redirected] :=
    rfl
  refine ⟨?_, ?_, ?_⟩
  · rcases edgeKeys_eq_iff .bank hType (i := 0) (j := 1)
      (congrArg (fun records => records[0]?) hRecords)
      (congrArg (fun records => records[1]?) hRecords) rfl rfl with
      ⟨key, otherKey, hKey, hOtherKey, hSame, _⟩
    have hValues :
        ∀ d ∈ ["day", "turn"],
          Record.valueOf unnumbered d = Record.valueOf renumbered d :=
      List.forall_mem_cons.mpr ⟨rfl, List.forall_mem_singleton.mpr rfl⟩
    have hEnds : Record.SameEnds unnumbered renumbered :=
      ⟨⟨"7", ⟨_, rfl, .int 7⟩, _, rfl, .string "7"⟩,
        "8", ⟨_, rfl, .string "8"⟩, _, rfl, .int 8⟩
    exact ⟨key, otherKey, hKey, hOtherKey,
      hSame.mpr ⟨hEnds, hValues⟩⟩
  · rcases edgeKeys_eq_iff .bank hType (i := 1) (j := 2)
      (congrArg (fun records => records[1]?) hRecords)
      (congrArg (fun records => records[2]?) hRecords) rfl rfl with
      ⟨key, otherKey, hKey, hOtherKey, _, hEqual⟩
    refine ⟨key, otherKey, hKey, hOtherKey, ?_⟩
    rw [Bool.eq_false_iff, ne_eq, hEqual]
    rintro ⟨_, hValues⟩
    exact absurd (hValues "day" (by decide)) (by decide)
  · rcases edgeKeys_eq_iff .bank hType (i := 1) (j := 3)
      (congrArg (fun records => records[1]?) hRecords)
      (congrArg (fun records => records[3]?) hRecords) rfl rfl with
      ⟨key, otherKey, hKey, hOtherKey, hSame, hEqual⟩
    have hEnds : ¬ Record.SameEnds renumbered redirected := by
      rintro ⟨_, text, hNumber, hText⟩
      have hEight := hNumber.unique ⟨_, rfl, .int 8⟩
      have hOther := hText.unique ⟨_, rfl, .string "08"⟩
      exact absurd (hEight.symm.trans hOther) (by decide)
    refine ⟨key, otherKey, hKey, hOtherKey, ?_, ?_⟩
    · rw [ne_eq, hSame]
      exact fun hBoth => hEnds hBoth.1
    · rw [Bool.eq_false_iff, ne_eq, hEqual]
      exact fun hBoth => hEnds hBoth.1

end Response

end GraphClient

------------------------------------------------------------
-- Identity of Stored Edges
------------------------------------------------------------

namespace GraphClient

/- The values that identify an edge with a bag, as it is written. -/
def EdgeType.identity?
    (type : EdgeType)
    (bag : Bag) :
    Option Json :=
  match type.discriminatorValues bag with
  | [] => none
  | [v] => some v.toJson
  | values => some (.array (values.map Value.toJson))

namespace Record

variable {record : Json} {bag : Bag}

/- A record with the values of a bag has each of them. -/
theorem valueOf_eq_of_attributes
    (hAttributes :
      record.field? "attributes" = some bag.toSortedJson)
    (name : String) :
    valueOf record name =
      ((bag.get? name).map Value.toJson).getD .null := by
  rw [← bag.field?_toSortedJson, valueOf, hAttributes]
  rfl

/-
  Where no value is missing, the values that a record has are the
  ones that are written, in the same order.
-/
theorem map_valueOf_eq
    (hAttributes :
      record.field? "attributes" = some bag.toSortedJson)
    {names : List String}
    (hNames : ∀ name ∈ names, name ∈ bag.keys) :
    names.map (valueOf record) =
      (names.filterMap bag.get?).map Value.toJson := by
  induction names with
  | nil => rfl
  | cons name names ih =>
      rcases List.forall_mem_cons.mp hNames with ⟨hName, hRest⟩
      have hContains := (bag.contains_iff name).mpr hName
      rcases Option.isSome_iff_exists.mp hContains with ⟨v, hValue⟩
      rw [List.map_cons, List.filterMap_cons_some hValue,
        List.map_cons, ih hRest,
        valueOf_eq_of_attributes hAttributes, hValue]
      rfl

/- What identifies the record is what identifies the bag. -/
theorem identity?_eq
    {type : EdgeType}
    (hAttributes :
      record.field? "attributes" = some bag.toSortedJson)
    (hBag : ∀ name ∈ type.discriminator, name ∈ bag.keys) :
    identity? record type.discriminator = type.identity? bag := by
  rw [identity?, map_valueOf_eq hAttributes hBag, EdgeType.identity?,
    EdgeType.discriminatorValues]
  match type.discriminator.filterMap bag.get? with
  | [] => rfl
  | [v] => rfl
  | v :: w :: values => rfl

end Record

/- The record of a stored edge is one of an edge. -/
theorem Link.isEdge_record
    (link : Link)
    (bag : Bag) :
    Record.IsEdge (link.record bag) :=
  Record.isEdge_iff.mpr ⟨_, rfl⟩

/- A key that tells of a record with written values is this one. -/
theorem EdgeKey.Tells.eq_of_written
    {schema : Schema}
    {name source target : String}
    {type : EdgeType}
    {bag : Bag}
    {record : Json}
    {key : EdgeKey}
    (hTells : key.Tells schema record)
    (hType : schema.edges.get? name = some type)
    (hBag : ∀ name ∈ type.discriminator, name ∈ bag.keys)
    (hName : record.field? "e_type" = some (.string name))
    (hSource : record.field? "from_id" = some (.string source))
    (hTarget : record.field? "to_id" = some (.string target))
    (hAttributes :
      record.field? "attributes" = some bag.toSortedJson) :
    key = ⟨source, target, type.identity? bag⟩ := by
  have hFrom := hTells.source.unique ⟨_, hSource, .string source⟩
  have hTo := hTells.target.unique ⟨_, hTarget, .string target⟩
  have hIdentity := hTells.typed name type hName hType
  rw [Record.identity?_eq hAttributes hBag] at hIdentity
  change EdgeKey.mk key.source key.target key.discriminator? = _
  rw [hFrom, hTo, hIdentity]

namespace Response

/- What is related to each item as its image is the list of images. -/
theorem eq_map_of_forall₂
    {α β : Type}
    {R : α → β → Prop}
    {f : α → β}
    {xs : List α}
    {ys : List β}
    (hImage : ∀ x ∈ xs, ∀ y, R x y → y = f x)
    (hRelated : List.Forall₂ R xs ys) :
    ys = xs.map f := by
  induction hRelated with
  | nil => rfl
  | cons hFirst _ ih =>
      rcases List.forall_mem_cons.mp hImage with ⟨hHead, hTail⟩
      rw [List.map_cons, ← hHead _ hFirst, ← ih hTail]

/- The records of stored edges are all read as ones of edges. -/
theorem edgeRecords_links
    (label : String)
    (link : Link)
    (bags : List Bag) :
    edgeRecords [[(label, .array (bags.map link.record))]] =
      bags.map link.record := by
  have hRecords :
      records [[(label, .array (bags.map link.record))]] =
        bags.map link.record := by
    simp [records, Json.items?]
  rw [edgeRecords, hRecords, List.filter_eq_self]
  intro record hMem
  rcases List.mem_map.mp hMem with ⟨bag, _, rfl⟩
  exact decide_eq_true (link.isEdge_record bag)

/-
  A record of an edge with the values of a bag, which has one for
  each discriminator of the type, has the key that these values
  are written as.  The records with which a store answers are
  such records, so each stored edge is told by its own key.
-/
theorem edgeKeys_read_back
    (schema : Schema)
    {name : String}
    {type : EdgeType}
    (hType : schema.edges.get? name = some type) :
    (∀ bag : Bag,
      (∀ d ∈ type.discriminator, d ∈ bag.keys) →
        ∀ (response : Response) (i : Nat) (record : Json)
            (source target : String),
          response.edgeRecords[i]? = some record →
            record.field? "e_type" = some (.string name) →
            record.field? "from_id" = some (.string source) →
            record.field? "to_id" = some (.string target) →
            record.field? "attributes" = some bag.toSortedJson →
              (response.edgeKeys schema)[i]? =
                some ⟨source, target, type.identity? bag⟩) ∧
      ∀ (s : Store) (link : Link),
        link.route.edge = name →
          (∀ bag ∈ s.linked link,
            ∀ d ∈ type.discriminator, d ∈ bag.keys) →
            ∀ label : String,
              edgeKeys schema
                  [[(label, .array (s.perform (.getLink link)).1)]] =
                (s.linked link).map (fun bag =>
                  ⟨link.ends.source, link.ends.target,
                    type.identity? bag⟩) := by
  constructor
  · intro bag hBag response i record source target hRecord hName
      hSource hTarget hAttributes
    rcases exists_edgeKey schema hRecord with ⟨key, hKey, hTells⟩
    rw [hKey, hTells.eq_of_written hType hBag hName hSource hTarget
      hAttributes]
  · rintro s link rfl hBags label
    have hKeys :=
      forall₂_edgeKeys schema
        [[(label, .array ((s.linked link).map link.record))]]
    rw [edgeRecords_links, List.forall₂_map_left_iff] at hKeys
    apply eq_map_of_forall₂ _ hKeys
    intro bag hBag key hTells
    exact hTells.eq_of_written hType (hBags bag hBag) rfl rfl rfl rfl

/- All transfers from one customer to another. -/
def transferred : Link where
  route := ⟨"Customer", "Transfers", "Customer"⟩
  ends := ⟨"7", "8"⟩

/- The first moment of a day in January. -/
def january
    (day : Nat)
    (hDay : Calendar.IsDate 2024 1 day) :
    Calendar.DateTime :=
  ⟨⟨2024, 1, day, hDay⟩, .midnight⟩

/- A store with two transfers, whose values are in two orders. -/
def ledger : Store :=
  (Store.empty.putEdge transferred
      (.ofList
        [("turn", .int 2),
          ("day", .dateTime (january 1 (by decide)))])).putEdge
    transferred
      (.ofList
        [("day", .dateTime (january 1 (by decide))),
          ("turn", .int 1)])

/- Both transfers are told by the day and then by the number. -/
theorem edgeKeys_read_back_ledger :
    edgeKeys .bank
        [[("Edges", .array (ledger.perform (.getLink transferred)).1)]] =
      [⟨"7", "8", some (.array
          [.string "2024-01-01 00:00:00", .int 2])⟩,
        ⟨"7", "8", some (.array
          [.string "2024-01-01 00:00:00", .int 1])⟩] := by
  have hType : Schema.bank.edges.get? "Transfers" = some .transfer :=
    rfl
  rw [(edgeKeys_read_back .bank hType).2 ledger transferred rfl
    (by decide)]
  rfl

end Response

end GraphClient
