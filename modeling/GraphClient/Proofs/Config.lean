import GraphClient.Config
import GraphClient.Proofs.Schema.Dateless
/-
  A written configuration is read again.

  Key theorems include:
    * `GraphClient.Options.reader_toJson`
    * `GraphClient.Config.reader_toJson`
    * `GraphClient.Config.load_eq_ok_iff`
    * `GraphClient.Config.written_reads_back`

  What was read once is read again from its own text, in either
  layout, and passes its checks again.
-/

------------------------------------------------------------
-- Options
------------------------------------------------------------

namespace GraphClient

open Json (Reader RecordField RecordForm)

namespace Options

/- A number of samples that a text can hold. -/
def Fits
    (options : Options) :
    Prop :=
  options.edgeSamples ≤ Numeral.maxWord

/- A size of at most 64 bits is read from its numeral. -/
theorem size_ofInt
    {n : Nat}
    (hFits : n ≤ Numeral.maxWord)
    (budget : Nat) :
    Reader.size budget (Json.int n).draft = .ok n := by
  have hValue : (Numeral.ofInt n).value? = some (.int n) := by
    apply Numeral.value?_ofInt
    · omega
    · omega
  have hNumber := Reader.number_eq_ok_iff.mpr hValue
  have hSign : (0 : Int) ≤ n := Int.natCast_nonneg n
  simp only [Json.draft, Reader.size, hNumber, bind, Except.bind,
    hSign, if_true]
  rfl

/- No size beyond 64 bits is read. -/
theorem yields_size :
    Reader.Yields Reader.size (fun n => n ≤ Numeral.maxWord) := by
  intro budget d n hRead
  cases d with
  | number numeral =>
      rcases Checks.bind_eq_ok_iff.mp hRead with
        ⟨value, hNumber, hSize⟩
      have hValue := Reader.number_eq_ok_iff.mp hNumber
      cases value with
      | float x => exact absurd hSize Reader.wrongType_ne_ok
      | int i =>
          have hHigh := Numeral.le_maxWord_of_value? hValue
          by_cases hSign : 0 ≤ i
          · simp only [hSign, if_true] at hSize
            rw [Checks.pure_eq_ok_iff.mp hSize]
            omega
          · simp only [hSign, if_false] at hSize
            cases hSize
  | _ => exact absurd hRead Reader.wrongType_ne_ok

/- Written options are read. -/
theorem reader_toJson
    {options : Options}
    (hFits : options.Fits)
    (budget : Nat) :
    reader (budget + 2) options.toJson.draft = .ok options := by
  have hSamples := size_ofInt hFits (budget + 1)
  have hQuery := Reader.string_draft (budget + 1) options.degreeQuery
  have hDrops := Reader.bool_draft (budget + 1) options.dropsExisting
  have hMembers :
      form.readMembers (budget + 1)
          (Json.draftMembers
            [("num_edge_samples", .int options.edgeSamples),
              ("degree_query_name", .string options.degreeQuery),
              ("drop_existing_graph", .bool options.dropsExisting)])
          Slots.empty =
        .ok ⟨some options.edgeSamples, some options.degreeQuery,
          some options.dropsExisting⟩ := by
    rw [Json.draftMembers, Json.draftMembers, Json.draftMembers,
      RecordForm.readMembers_of rfl hSamples rfl,
      RecordForm.readMembers_of rfl hQuery rfl,
      RecordForm.readMembers_of rfl hDrops rfl]
    rfl
  exact Reader.record_eq hMembers

/- Slots with a number of samples that a text can hold. -/
def Slots.Fits
    (slots : Slots) :
    Prop :=
  ∀ n ∈ slots.edgeSamples, n ≤ Numeral.maxWord

/- Options that have been read fit into a text. -/
theorem yields_fits :
    Reader.Yields reader Fits := by
  have hKeeps : form.Keeps Slots.Fits := by
    intro field hMem
    simp only [form, List.mem_cons, List.not_mem_nil, or_false]
      at hMem
    rcases hMem with rfl | rfl | rfl
    · refine RecordField.keeps_of yields_size ?_
      intro slots n _ hSize found hFound
      cases hFound
      exact hSize
    · exact RecordField.keeps_of_forall (fun _ _ hSlots => hSlots)
    · exact RecordField.keeps_of_forall (fun _ _ hSlots => hSlots)
  refine Reader.yields_record hKeeps ?_ ?_
  · intro n hMem
    cases hMem
  · intro absent slots hSlots options hBuild
    cases hBuild
    unfold Fits Slots.options
    cases hSamples : slots.edgeSamples with
    | none => exact (by decide : 1000 ≤ Numeral.maxWord)
    | some n => exact hSlots n hSamples

end Options

end GraphClient

------------------------------------------------------------
-- Configurations
------------------------------------------------------------

namespace GraphClient

open Json (Reader RecordField RecordForm)

namespace Config

/- A configuration that can come from a text. -/
structure FromText (config : Config) : Prop where
  dateless : config.schema.EachDefault Value.Dateless
  fits : config.options.Fits

/- A written configuration is read. -/
theorem reader_toJson
    {config : Config}
    (hFrom : config.FromText)
    (hBack : config.schema.EachDefault Value.ReadsBack)
    (budget : Nat) :
    reader (budget + 7) config.toJson.draft = .ok config := by
  have hSchema := Schema.reader_toJson hBack budget
  rw [Schema.reread_eq_self hFrom.dateless] at hSchema
  have hOptions := Options.reader_toJson hFrom.fits (budget + 4)
  have hMembers :
      form.readMembers (budget + 6)
          (Json.draftMembers
            [("schema", config.schema.toJson),
              ("options", config.options.toJson)])
          ⟨none, none⟩ =
        .ok ⟨some config.schema, some config.options⟩ := by
    rw [Json.draftMembers, Json.draftMembers,
      RecordForm.readMembers_of rfl hSchema rfl,
      RecordForm.readMembers_of rfl hOptions rfl]
    rfl
  exact Reader.record_eq hMembers

/- Slots whose parts can come from a text. -/
structure Slots.FromText (slots : Slots) : Prop where
  dateless :
    ∀ schema ∈ slots.schema, schema.EachDefault Value.Dateless
  fits : ∀ options ∈ slots.options, options.Fits

/- Any configuration that has been read can come from a text. -/
theorem yields_fromText :
    Reader.Yields reader FromText := by
  have hKeeps : form.Keeps Slots.FromText := by
    intro field hMem
    simp only [form, List.mem_cons, List.not_mem_nil, or_false]
      at hMem
    rcases hMem with rfl | rfl
    · refine RecordField.keeps_of Schema.yields_dateless ?_
      intro slots schema hSlots hSchema
      refine ⟨?_, hSlots.fits⟩
      intro found hFound
      cases hFound
      exact hSchema
    · refine RecordField.keeps_of Options.yields_fits ?_
      intro slots options hSlots hOptions
      refine ⟨hSlots.dateless, ?_⟩
      intro found hFound
      cases hFound
      exact hOptions
  refine Reader.yields_record hKeeps ?_ ?_
  · constructor
    · intro schema hMem
      cases hMem
    · intro options hMem
      cases hMem
  · intro absent slots hSlots config hBuild
    rcases Checks.bind_eq_ok_iff.mp hBuild with
      ⟨schema, hSchema, hConfig⟩
    rw [Checks.pure_eq_ok_iff.mp hConfig]
    constructor
    · cases hFound : slots.schema with
      | none =>
          rw [hFound] at hSchema
          cases hSchema
      | some found =>
          rw [hFound] at hSchema
          cases hSchema
          exact hSlots.dateless schema hFound
    · cases hFound : slots.options with
      | none => exact (by decide : 1000 ≤ Numeral.maxWord)
      | some found => exact hSlots.fits found hFound

/- A text loads when it is read and its options pass. -/
theorem load_eq_ok_iff
    {text : String}
    {config : Config} :
    load text = .ok config ↔
      Reader.run reader text = .ok config ∧
        config.options.check = .ok () := by
  unfold load
  rw [Checks.bind_eq_ok_iff]
  constructor
  · rintro ⟨found, hRead, hRest⟩
    rcases Checks.next_eq_ok_iff.mp hRest with ⟨hCheck, hConfig⟩
    rw [Checks.pure_eq_ok_iff.mp hConfig]
    exact ⟨Checks.mapError_eq_ok_iff.mp hRead,
      Checks.mapError_eq_ok_iff.mp hCheck⟩
  · rintro ⟨hRead, hCheck⟩
    refine ⟨config, Checks.mapError_eq_ok_iff.mpr hRead, ?_⟩
    exact Checks.next_eq_ok_iff.mpr
      ⟨Checks.mapError_eq_ok_iff.mpr hCheck, rfl⟩

/- A configuration that was loaded is loaded from its own text. -/
theorem load_written
    {text : String}
    {config : Config}
    (hLoad : load text = .ok config)
    (hBack : config.schema.EachDefault Value.ReadsBack) :
    load config.toJson.compact = .ok config ∧
      load config.toJson.pretty = .ok config := by
  rcases load_eq_ok_iff.mp hLoad with ⟨hRun, hCheck⟩
  rcases Reader.exists_of_run_eq_ok hRun with ⟨d, hRead⟩
  have hFrom := yields_fromText Reader.nestingLimit d config hRead
  have hAgain :
      reader Reader.nestingLimit config.toJson.draft = .ok config :=
    reader_toJson hFrom hBack 121
  constructor
  · rw [load_eq_ok_iff, Reader.run_compact]
    exact ⟨hAgain, hCheck⟩
  · rw [load_eq_ok_iff, Reader.run_pretty]
    exact ⟨hAgain, hCheck⟩

end Config

end GraphClient

------------------------------------------------------------
-- Schemas and Configurations Read Back
------------------------------------------------------------

namespace GraphClient

/-
  A schema whose floating-point defaults are read back is loaded
  from its own text.  Its dates come back as their texts, which
  denote the same dates and are accepted in their place; without
  dates it comes back as it was; and it is written in the same
  way again.  A configuration that was loaded is loaded again,
  from either layout of its text, as it was.
-/
theorem Config.written_reads_back :
    (∀ schema : Schema,
      schema.EachDefault Value.ReadsBack →
        Schema.load schema.text = .ok schema.reread ∧
          schema.reread.text = schema.text ∧
          (schema.EachDefault Value.Dateless →
            schema.reread = schema)) ∧
      (∀ t : Calendar.DateTime,
        (Value.dateTime t).reread = .string t.text ∧
          (Value.string t.text).dateTime? = some t ∧
          DataType.dateTime.accepts (.string t.text) = true) ∧
      ∀ (text : String) (config : Config),
        Config.load text = .ok config →
          config.schema.EachDefault Value.ReadsBack →
            Config.load config.toJson.compact = .ok config ∧
              Config.load config.toJson.pretty = .ok config := by
  refine ⟨?_, ?_, ?_⟩
  · intro schema hBack
    have hParse := Schema.parse_text_of_readsBack hBack
    exact ⟨Checks.mapError_eq_ok_iff.mpr hParse,
      Schema.text_reread schema, Schema.reread_eq_self⟩
  · intro t
    exact ⟨rfl, Value.dateTime?_text t, DataType.accepts_text t⟩
  · intro text config hLoad hBack
    exact Config.load_written hLoad hBack

/- A node type with a date and a number as defaults. -/
def NodeType.visit : NodeType where
  primaryKey := "id"
  attributes :=
    .ofList
      [("id", .plain .string),
        ("started", ⟨.dateTime, some (.dateTime
          ⟨⟨2024, 1, 31, by decide⟩, ⟨8, 5, 0, by decide⟩⟩)⟩),
        ("weight", ⟨.double, some (.float
          (.ofRatio false (Nat.pow 10 16) 1))⟩)]
  vectors := .ofList [("summary", .ofDimension 3)]
  accepted := check_eq_ok_iff.mpr (by decide +kernel)

/- An edge type with a discriminator. -/
def EdgeType.follows : EdgeType where
  isDirected := true
  source := "Visit"
  target := "Visit"
  discriminator := ["rank"]
  attributes := .ofList [("rank", ⟨.int, some (.int 1)⟩)]
  accepted := check_eq_ok_iff.mpr (by decide +kernel)

/- A schema of visits that follow each other. -/
def Schema.visits : Schema where
  graphName := "Visits"
  nodes := .ofList [("Visit", .visit)]
  edges := .ofList [("Follows", .follows)]
  accepted := check_eq_ok_iff.mpr (by decide +kernel)

/- A configuration of visits, written with all shorthands. -/
def Json.visits : Json :=
  .object
    [("schema", .object
      [("graph_name", .string "Visits"),
        ("nodes", .object
          [("Visit", .object
            [("attributes", .object
              [("id", .string "STRING"),
                ("started", .object
                  [("data_type", .string "DATETIME"),
                    ("default_value",
                      .string "2024-01-31 08:05:00")]),
                ("weight", .object
                  [("data_type", .string "DOUBLE"),
                    ("default_value", .float
                      (.ofRatio false (Nat.pow 10 16) 1))])]),
              ("vector_attributes", .object
                [("summary", .int 3)])])]),
        ("edges", .object
          [("Follows", .object
            [("is_directed_edge", .bool true),
              ("from_node_type", .string "Visit"),
              ("to_node_type", .string "Visit"),
              ("discriminator", .string "rank"),
              ("attributes", .object
                [("rank", .object
                  [("data_type", .string "INT"),
                    ("default_value", .int 1)])])])])]),
      ("options", .object [("num_edge_samples", .int 5)])]

/- The configuration that the shorthands denote. -/
def Config.visits : Config :=
  ⟨Schema.visits.reread, 5, "api_degree", false⟩

/- The text with shorthands denotes the configuration. -/
theorem Config.load_visits :
    load Json.visits.pretty = .ok visits := by
  rw [load_eq_ok_iff, Json.Reader.run_pretty]
  constructor
  · exact Checks.eq_ok_of_toOption (by decide +kernel)
  · exact Checks.eq_ok_of_toOption (by decide +kernel)

/- The schema with a date comes back with its text. -/
theorem Config.written_reads_back_visits :
    Schema.load Schema.visits.text = .ok Schema.visits.reread ∧
      Schema.load Schema.visits.reread.text =
        .ok Schema.visits.reread ∧
      Config.load Config.visits.toJson.compact =
        .ok Config.visits := by
  have hVisits :
      Schema.visits.EachDefault Value.ReadsBack := by
    decide +kernel
  have hReread :
      Schema.visits.reread.EachDefault Value.ReadsBack := by
    decide +kernel
  rcases Config.written_reads_back with ⟨hSchemas, _, hConfigs⟩
  rcases hSchemas Schema.visits hVisits with
    ⟨hLoad, hText, _⟩
  refine ⟨hLoad, ?_, ?_⟩
  · rw [hText]
    exact hLoad
  · exact (hConfigs Json.visits.pretty Config.visits
      Config.load_visits hReread).1

end GraphClient
