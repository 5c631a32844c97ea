import GraphClient.Schema.Encoding
import GraphClient.Text.Blank
/-
  Configurations: a schema with the options of a client.

  Key definitions include:
    * `GraphClient.Options`
    * `GraphClient.Config`
    * `GraphClient.Config.load`
    * `GraphClient.Schema.load`

  A configuration that is read must sample at least one edge and
  must name its degree query.  Schemas and configurations are
  read from texts, or from files of UTF-8 text.
-/

------------------------------------------------------------
-- Options
------------------------------------------------------------

namespace GraphClient

/- How a client treats its graph. -/
structure Options where
  edgeSamples : Nat
  degreeQuery : String
  dropsExisting : Bool
deriving DecidableEq, Repr

/- The options of a client that sets none. -/
def Options.standard : Options :=
  ⟨1000, "api_degree", false⟩

/- A schema with the options of a client. -/
structure Config where
  schema : Schema
  options : Options
deriving DecidableEq

end GraphClient

------------------------------------------------------------
-- Writing
------------------------------------------------------------

namespace GraphClient

/- The JSON of options. -/
def Options.toJson
    (options : Options) :
    Json :=
  .object
    [("num_edge_samples", .int options.edgeSamples),
      ("degree_query_name", .string options.degreeQuery),
      ("drop_existing_graph", .bool options.dropsExisting)]

/- The JSON of a configuration. -/
def Config.toJson
    (config : Config) :
    Json :=
  .object
    [("schema", config.schema.toJson),
      ("options", config.options.toJson)]

end GraphClient

------------------------------------------------------------
-- Reading
------------------------------------------------------------

namespace GraphClient

open Json (Draft Reader RecordField RecordForm)

namespace Options

/- The options that have been read. -/
structure Slots where
  edgeSamples : Option Nat
  degreeQuery : Option String
  dropsExisting : Option Bool

/- No options. -/
def Slots.empty : Slots :=
  ⟨none, none, none⟩

/- The options, with the standard ones for those not read. -/
def Slots.options
    (slots : Slots) :
    Options :=
  ⟨slots.edgeSamples.getD standard.edgeSamples,
    slots.degreeQuery.getD standard.degreeQuery,
    slots.dropsExisting.getD standard.dropsExisting⟩

/- The fields of options. -/
def form : RecordForm Slots where
  name := "GraphOptions"
  fields :=
    [.of "num_edge_samples" Slots.edgeSamples
        (fun slots n => { slots with edgeSamples := some n })
        Reader.size,
      .of "degree_query_name" Slots.degreeQuery
        (fun slots name => { slots with degreeQuery := some name })
        Reader.string,
      .of "drop_existing_graph" Slots.dropsExisting
        (fun slots b => { slots with dropsExisting := some b })
        Reader.bool]

/- Read options. -/
def reader : Reader Options :=
  Reader.record form Slots.empty (fun _ slots => .ok slots.options)

end Options

namespace Config

/- The parts of a configuration that have been read. -/
structure Slots where
  schema : Option Schema
  options : Option Options

/- The fields of a configuration. -/
def form : RecordForm Slots where
  name := "GraphConfig"
  fields :=
    [.of "schema" Slots.schema
        (fun slots schema => { slots with schema := some schema })
        Schema.reader,
      .of "options" Slots.options
        (fun slots options => { slots with options := some options })
        Options.reader]

/- The configuration of its parts; it needs a schema. -/
def Slots.config
    (absent : String → Json.Misfit)
    (slots : Slots) :
    Except Json.Misfit Config := do
  let schema ← Reader.required absent "schema" slots.schema
  return ⟨schema, slots.options.getD .standard⟩

/- Read a configuration, without checking its options. -/
def reader : Reader Config :=
  Reader.record form ⟨none, none⟩ Slots.config

end Config

end GraphClient

------------------------------------------------------------
-- Checks
------------------------------------------------------------

namespace GraphClient

/- Why options are refused. -/
inductive Options.Fault
| noSamples
| noDegreeQuery
deriving DecidableEq, Repr

/- The message of a refusal. -/
def Options.Fault.message : Options.Fault → String
| .noSamples => "num_edge_samples must be at least 1"
| .noDegreeQuery => "degree_query_name must not be empty"

/- Check options. -/
def Options.check
    (options : Options) :
    Except Options.Fault Unit :=
  if options.edgeSamples = 0 then
    .error .noSamples
  else if (Text.trim options.degreeQuery).isEmpty then
    .error .noDegreeQuery
  else
    .ok ()

end GraphClient

------------------------------------------------------------
-- Loading
------------------------------------------------------------

namespace GraphClient

/- Why a file has no text. -/
inductive FileFault
| absent
| notText
deriving DecidableEq, Repr

/- The message of a file without text. -/
def FileFault.message : FileFault → String
| .absent => "No such file or directory (os error 2)"
| .notText => "stream did not contain valid UTF-8"

/- Why nothing could be loaded. -/
inductive LoadError
| file (fault : FileFault)
| json (fault : Json.Fault)
| options (fault : Options.Fault)

/- The message of a failed load; a text that is no JSON has none. -/
def LoadError.message? : LoadError → Option String
| .file fault => some ("IO error: " ++ fault.message)
| .json .malformed => none
| .json (.misfit m) => some ("Serialization error: " ++ m.message)
| .options fault => some ("Configuration error: " ++ fault.message)

/- The text of a file, given its bytes if it exists. -/
def fileText
    (content : Option ByteArray) :
    Except LoadError String :=
  match content with
  | none => .error (.file .absent)
  | some bytes =>
      match String.fromUTF8? bytes with
      | some text => .ok text
      | none => .error (.file .notText)

/- The schema of a text. -/
def Schema.load
    (text : String) :
    Except LoadError Schema :=
  (Schema.parse text).mapError .json

/- The configuration of a text. -/
def Config.load
    (text : String) :
    Except LoadError Config := do
  let config ← (Json.Reader.run Config.reader text).mapError .json
  config.options.check.mapError .options
  return config

/- The schema of a file. -/
def Schema.loadFile
    (content : Option ByteArray) :
    Except LoadError Schema := do
  Schema.load (← fileText content)

/- The configuration of a file. -/
def Config.loadFile
    (content : Option ByteArray) :
    Except LoadError Config := do
  Config.load (← fileText content)

end GraphClient
