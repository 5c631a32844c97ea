import GraphClient.Graph.Basic
import GraphClient.Query.Degree
import GraphClient.Schema.Definition
import GraphClient.Text.Search
/-
  Creating and removing graphs.

  Key definitions include:
    * `GraphClient.Graph.createSchema`
    * `GraphClient.Graph.drop`
    * `GraphClient.Graph.installQueries`
    * `GraphClient.Graph.create`

  The remote graph answers a command with a text in which it
  reports success or failure.  A graph that cannot be dropped
  before it is created anew is no failure.
-/

------------------------------------------------------------
-- Commands
------------------------------------------------------------

namespace GraphClient

namespace Graph

/- What the output of a job says that has defined all types. -/
def successMark : String :=
  "Local schema change succeeded"

/- What the output says of a query that cannot be installed. -/
def draftMark : String :=
  "Saved as draft query with type/semantic error"

/- Run a command, and judge its output. -/
def command
    {α : Type}
    (text : String)
    (judge : String → Except GraphError α) :
    Operation α :=
  .ask (.runCommand text) (fun (o : Except RemoteError String) =>
    match o with
    | .ok output => .done (judge output)
    | .error e => Operation.fail (.remote e))

/- Remove the graph. -/
def drop
    (g : Graph) :
    Operation Unit :=
  command (Schema.removalScript g.name) (fun _ => .ok ())

/- Judge the output of the script that creates a graph. -/
def judgeCreation
    (g : Graph)
    (output : String) :
    Except GraphError Unit :=
  if Text.occursIn successMark output then
    .ok ()
  else
    .error (.schemaChange g.name (Text.trim output))

/- Create the graph with all of its types. -/
def createTypes
    (g : Graph) :
    Operation Unit :=
  command g.schema.creationScript g.judgeCreation

/- Create the graph, after dropping it if that is wanted. -/
def createSchema
    (g : Graph)
    (dropsExisting : Bool) :
    Operation Unit :=
  if dropsExisting then
    g.drop.andThen (fun _ => g.createTypes)
  else
    g.createTypes

/- Judge the output of the script that installs queries. -/
def judgeInstallation
    (g : Graph)
    (output : String) :
    Except GraphError Unit :=
  if Text.occursIn draftMark output then
    .error (.queryInstall g.options.degreeQuery (Text.trim output))
  else
    .ok ()

/- Install the queries that other operations rely on. -/
def installQueries
    (g : Graph) :
    Operation Unit :=
  command (degreeScript g.name g.options.degreeQuery)
    g.judgeInstallation

/- Create the graph of a configuration with its queries. -/
def create
    (config : Config) :
    Operation Graph :=
  let g := ofConfig config
  (g.createSchema g.options.dropsExisting).bind (fun _ =>
    g.installQueries.bind (fun _ => Operation.succeed g))

end Graph

end GraphClient
