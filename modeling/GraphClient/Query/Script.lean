import GraphClient.Text.Join
/-
  The scripts of interpreted queries.

  Key definitions include:
    * `GraphClient.Script`
    * `GraphClient.Script.lines`
    * `GraphClient.Script.text`

  A script declares its parameters and accumulators, starts
  from a set of nodes, may select from it, and prints a result.
  Its text has one line for each clause; a clause that is
  absent has no line.
-/

------------------------------------------------------------
-- Scripts
------------------------------------------------------------

namespace GraphClient

namespace Script

/- A set of nodes that gets a name. -/
structure Seed where
  name : String
  source : String
deriving DecidableEq, Repr

/- A selection that gets a name. -/
structure Selection where
  name : String
  selected : String
  pattern : String
  filter? : Option String
  collect? : Option String
  limit? : Option Nat
deriving DecidableEq, Repr

/- What a script prints. -/
inductive Output
| nodes (name : String) (projection? : Option (List String))
| collected (accumulator label : String)
deriving DecidableEq, Repr

end Script

/- The script of an interpreted query. -/
structure Script where
  graphName : String
  parameters : List String
  declarations : List String
  seed : Script.Seed
  selection? : Option Script.Selection
  output : Script.Output
deriving DecidableEq, Repr

end GraphClient

------------------------------------------------------------
-- Lines
------------------------------------------------------------

namespace GraphClient

namespace Script

/- A line inside a script. -/
def inner
    (line : String) :
    String :=
  "  " ++ line

/- A line inside a statement of a script. -/
def clause
    (line : String) :
    String :=
  "    " ++ line

/- Lines with a comma at the end of each but the last. -/
def commaLines : List String → List String
| [] => []
| [line] => [line]
| line :: rest => (line ++ ",") :: commaLines rest

/- The lines that name the parameters and the graph. -/
def headLines
    (graphName : String) :
    List String → List String
| [] => ["INTERPRET QUERY() FOR GRAPH " ++ graphName ++ " \x7b"]
| parameters =>
    "INTERPRET QUERY(" :: (commaLines (parameters.map inner) ++
      [") FOR GRAPH " ++ graphName ++ " \x7b"])

/- The line of a seed. -/
def Seed.line
    (seed : Seed) :
    String :=
  inner (seed.name ++ " = \x7b" ++ seed.source ++ "\x7d;")

/- The line of a filter. -/
def filterLines : Option String → List String
| none => []
| some filter => [clause ("WHERE " ++ filter)]

/- The line that collects what is selected. -/
def collectLines : Option String → List String
| none => []
| some collect => [clause ("ACCUM " ++ collect)]

/- The line of a limit. -/
def limitLines : Option Nat → List String
| none => []
| some limit => [clause ("LIMIT " ++ toString limit)]

/- The lines of a selection. -/
def Selection.lines
    (s : Selection) :
    List String :=
  [inner (s.name ++ " ="),
    clause ("SELECT " ++ s.selected),
    clause ("FROM " ++ s.pattern)] ++
  filterLines s.filter? ++
  collectLines s.collect? ++
  limitLines s.limit? ++
  [inner ";"]

/- The lines of a selection that may be absent. -/
def selectionLines : Option Selection → List String
| none => []
| some s => s.lines

/- A printed attribute. -/
def projected
    (set attributeName : String) :
    String :=
  clause (set ++ "." ++ attributeName ++ " AS " ++ attributeName)

/- The lines of what a script prints. -/
def Output.lines : Output → List String
| .nodes name none => [inner ("PRINT " ++ name ++ ";")]
| .nodes name (some names) =>
    inner ("PRINT " ++ name ++ "[") ::
      (commaLines (names.map (projected name)) ++ [inner "];"])
| .collected accumulator label =>
    [inner ("PRINT " ++ accumulator ++ " AS " ++ label ++ ";")]

/- The lines of a script before its closing brace. -/
def lines
    (script : Script) :
    List String :=
  headLines script.graphName script.parameters ++
    script.declarations.map inner ++
    [script.seed.line] ++
    selectionLines script.selection? ++
    script.output.lines

/- The text of a script. -/
def text
    (script : Script) :
    String :=
  Text.terminated script.lines ++ "\x7d"

end Script

end GraphClient
