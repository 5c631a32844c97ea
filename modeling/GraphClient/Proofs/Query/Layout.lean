import GraphClient.Proofs.Query.Requests
import GraphClient.Proofs.Request.Built
/-
  Where the clauses of a request stand in its script.

  Key definitions include:
    * `GraphClient.Query.Frame`
    * `GraphClient.Query.Frame.fill`
    * `GraphClient.NodeRequest.plainFrame`
    * `GraphClient.NodeRequest.selectingFrame`
    * `GraphClient.NeighborRequest.frame`
    * `GraphClient.EdgeRequest.frame`

  Key theorems include:
    * `GraphClient.NodeRequest.text_script`
    * `GraphClient.NeighborRequest.text_script`
    * `GraphClient.EdgeRequest.text_script`
    * `GraphClient.Query.compile_fills_frames`

  A script has a frame, which the restriction of the request has
  no part in.  The filter, the limit and the attributes have one
  place each in the frame, and leave it empty if they are absent.
-/

------------------------------------------------------------
-- Frames
------------------------------------------------------------

namespace GraphClient

namespace Query

/- The lines before a filter, up to a limit, and after it. -/
structure Frame where
  before : List String
  between : List String
  after : List String

/- The line of a filter, with its line break. -/
def whereText : Option String → String
| none => ""
| some condition => "    WHERE " ++ condition ++ "\n"

/- The line of a limit, with its line break. -/
def limitText : Option Nat → String
| none => ""
| some n => "    LIMIT " ++ toString n ++ "\n"

/- The statement that prints nodes, or some of their attributes. -/
def printText
    (set : String) :
    Option (List String) → String
| none => "  PRINT " ++ set ++ ";\n"
| some names =>
    "  PRINT " ++ set ++ "[\n" ++
      Text.join ",\n"
        (names.map (fun name =>
          "    " ++ set ++ "." ++ name ++ " AS " ++ name)) ++
      "\n  ];\n"

/- A frame with what a restriction and a statement put into it. -/
def Frame.fill
    (frame : Frame)
    (r : Restriction)
    (print : String) :
    String :=
  Text.terminated frame.before ++ whereText r.filter? ++
    Text.terminated frame.between ++ limitText r.limit? ++
    Text.terminated frame.after ++ print ++ "\x7d"

end Query

/- The frame of a script that prints nodes as they are. -/
def NodeRequest.plainFrame
    (graphName : String)
    (target : NodeTarget) :
    Query.Frame where
  before :=
    ["INTERPRET QUERY() FOR GRAPH " ++ graphName ++ " \x7b",
      match target with
      | .type name => "  Nodes = \x7b" ++ name ++ ".*\x7d;"
      | .all => "  Nodes = \x7bANY\x7d;"]
  between := []
  after := []

/- The frame of a script that selects nodes under an alias. -/
def NodeRequest.selectingFrame
    (graphName : String)
    (target : NodeTarget)
    (name : String) :
    Query.Frame where
  before :=
    (plainFrame graphName target).before ++
      ["  Nodes =",
        "    SELECT " ++ name,
        "    FROM Nodes:" ++ name]
  between := []
  after := ["  ;"]

/- The frame of a script that selects neighbors. -/
def NeighborRequest.frame
    (graphName startType : String)
    (p : Pattern) :
    Query.Frame where
  before :=
    ["INTERPRET QUERY(",
      "  SET<VERTEX<" ++ startType ++ ">> start_nodes",
      ") FOR GRAPH " ++ graphName ++ " \x7b",
      "  Nodes = \x7bstart_nodes\x7d;",
      "  Neighbors =",
      "    SELECT " ++ p.targetAlias,
      "    FROM Nodes:" ++ p.startAlias ++
        " -(" ++ Query.edgeTypesText p.edgeTypes ++ ":" ++
        p.edgeAlias ++ ")- " ++
        Query.nodeTypesText p.targetTypes ++ ":" ++ p.targetAlias]
  between := []
  after := ["  ;"]

/- The frame of a script that collects edges. -/
def EdgeRequest.frame
    (graphName : String)
    (sourceTypes : List String)
    (p : Pattern) :
    Query.Frame where
  before :=
    ["INTERPRET QUERY() FOR GRAPH " ++ graphName ++ " \x7b",
      "  ListAccum<EDGE> @@edges;",
      "  Source = \x7b" ++ Query.seedSource sourceTypes ++ "\x7d;",
      "  Results =",
      "    SELECT " ++ p.startAlias,
      "    FROM Source:" ++ p.startAlias ++
        " -(" ++ Query.edgeTypesText p.edgeTypes ++ ":" ++
        p.edgeAlias ++ ")- " ++
        Query.nodeTypesText p.targetTypes ++ ":" ++ p.targetAlias]
  between := ["    ACCUM @@edges += " ++ p.edgeAlias]
  after := ["  ;"]

end GraphClient

------------------------------------------------------------
-- Lines of Clauses
------------------------------------------------------------

namespace GraphClient

namespace Query

/- The lines of a filter are its clause. -/
theorem terminated_filterLines
    (filter? : Option String) :
    Text.terminated (Script.filterLines filter?) =
      whereText filter? := by
  cases filter? with
  | none => rfl
  | some condition =>
      rw [← String.toList_inj]
      simp [Script.filterLines, Script.clause, whereText,
        Text.terminated]

/- The lines of a limit are its clause. -/
theorem terminated_limitLines
    (limit? : Option Nat) :
    Text.terminated (Script.limitLines limit?) =
      limitText limit? := by
  cases limit? with
  | none => rfl
  | some n =>
      rw [← String.toList_inj]
      simp [Script.limitLines, Script.clause, limitText,
        Text.terminated]

/- Lines with commas are joined by commas and line breaks. -/
theorem terminated_commaLines
    {lines : List String}
    (hLines : lines ≠ []) :
    Text.terminated (Script.commaLines lines) =
      Text.join ",\n" lines ++ "\n" := by
  induction lines with
  | nil => exact absurd rfl hLines
  | cons line rest ih =>
      cases rest with
      | nil => simp [Script.commaLines, Text.terminated, Text.join]
      | cons next rest =>
          have hRest := ih (List.cons_ne_nil next rest)
          have hLinesEq :
              Script.commaLines (line :: next :: rest) =
                (line ++ ",") :: Script.commaLines (next :: rest) :=
            rfl
          have hJoinEq :
              Text.join ",\n" (line :: next :: rest) =
                line ++ ",\n" ++ Text.join ",\n" (next :: rest) :=
            rfl
          rw [hLinesEq, hJoinEq, Text.terminated, hRest,
            ← String.toList_inj]
          simp

/- The lines that print nodes are the statement that does. -/
theorem terminated_outputLines
    {set : String}
    {projection? : Option (List String)}
    (hProjection : projection? ≠ some []) :
    Text.terminated (Script.Output.nodes set projection?).lines =
      printText set projection? := by
  cases projection? with
  | none =>
      rw [← String.toList_inj]
      simp [Script.Output.lines, Script.inner, printText,
        Text.terminated]
  | some names =>
      have hNames : names.map (Script.projected set) ≠ [] := by
        intro hNone
        exact hProjection (congrArg some (List.map_eq_nil_iff.mp hNone))
      have hItems :
          Script.projected set =
            fun name => "    " ++ set ++ "." ++ name ++ " AS " ++ name := by
        funext name
        rw [← String.toList_inj]
        simp [Script.projected, Script.clause]
      rw [Script.Output.lines, Text.terminated, Text.terminated_append,
        terminated_commaLines hNames, hItems, ← String.toList_inj]
      simp [Script.inner, printText, Text.terminated]

/- Lines that are in a frame fill it. -/
theorem Frame.terminated_lines
    (frame : Frame)
    (r : Restriction)
    (printed : List String) :
    Text.terminated
        (frame.before ++ Script.filterLines r.filter? ++
          frame.between ++ Script.limitLines r.limit? ++
          frame.after ++ printed) ++ "\x7d" =
      frame.fill r (Text.terminated printed) := by
  simp only [Text.terminated_append, terminated_filterLines,
    terminated_limitLines, fill]

end Query

end GraphClient

------------------------------------------------------------
-- Lines of Frames
------------------------------------------------------------

namespace GraphClient

namespace Query

/- What is selected is named on a line. -/
theorem selectLine_eq
    (name : String) :
    Script.clause ("SELECT " ++ name) = "    SELECT " ++ name := by
  rw [← String.toList_inj]
  simp [Script.clause]

/- The edges of an alias are collected on a line. -/
theorem accumLine_eq
    (name : String) :
    Script.collectLines (some (collectEdges name)) =
      ["    ACCUM @@edges += " ++ name] := by
  refine congrArg (fun line => [line]) ?_
  rw [← String.toList_inj]
  simp [Script.clause, collectEdges, edgeAccumulator]

/- A pattern is on a line; its edge is between its two nodes. -/
theorem fromLine_eq
    (start : String)
    (p : Pattern) :
    Script.clause ("FROM " ++ patternText start p) =
      "    FROM " ++ start ++ ":" ++ p.startAlias ++
        " -(" ++ edgeTypesText p.edgeTypes ++ ":" ++
        p.edgeAlias ++ ")- " ++
        nodeTypesText p.targetTypes ++ ":" ++ p.targetAlias := by
  rw [← String.toList_inj]
  simp [Script.clause, patternText, edgeStep, nodeStep]

/- The set from which a selection starts is on a line. -/
theorem seedLine_eq
    (name source : String) :
    (⟨name, source⟩ : Script.Seed).line =
      "  " ++ name ++ " = \x7b" ++ source ++ "\x7d;" := by
  rw [← String.toList_inj]
  simp [Script.Seed.line, Script.inner]

/- The start nodes are declared on a line. -/
theorem startLine_eq
    (type : String) :
    Script.inner (startDeclaration type) =
      "  SET<VERTEX<" ++ type ++ ">> start_nodes" := by
  rw [← String.toList_inj]
  simp [Script.inner, startDeclaration, startNodes]

end Query

end GraphClient

------------------------------------------------------------
-- Scripts in Their Frames
------------------------------------------------------------

namespace GraphClient

open Query

/- The first lines of a script for nodes name graph and target. -/
theorem NodeRequest.lines_script
    (graphName : String)
    (request : NodeRequest) :
    (request.script graphName).lines =
      (plainFrame graphName request.target).before ++
        Script.selectionLines request.selection? ++
        (Script.Output.nodes nodes
          request.restriction.projection?).lines := by
  have hSeed :
      (⟨nodes, request.source⟩ : Script.Seed).line =
        match request.target with
        | .type name => "  Nodes = \x7b" ++ name ++ ".*\x7d;"
        | .all => "  Nodes = \x7bANY\x7d;" := by
    rw [seedLine_eq, ← String.toList_inj]
    cases hTarget : request.target <;>
      simp [nodes, source, hTarget, seedSource, Text.join]
  simp only [Script.lines, script, hSeed]
  rfl

/- A script for nodes is in a frame, with a selection or without. -/
theorem NodeRequest.text_script
    (graphName : String)
    {request : NodeRequest}
    (hProjection : request.restriction.projection? ≠ some []) :
    (request.script graphName).text =
      (if request.restriction.filter? = none ∧
          request.restriction.limit? = none then
        plainFrame graphName request.target
      else
        selectingFrame graphName request.target request.nodeAlias).fill
          request.restriction
          (printText "Nodes" request.restriction.projection?) := by
  rw [← terminated_outputLines hProjection, ← Frame.terminated_lines]
  refine congrArg (fun lines => Text.terminated lines ++ "\x7d") ?_
  rw [lines_script]
  -- Either clause makes a selection, also one without the other.
  by_cases hPlain :
      request.restriction.filter? = none ∧
        request.restriction.limit? = none
  · have hNone : request.selection? = none := by
      simp [selection?, hPlain.1, hPlain.2]
    rw [if_pos hPlain, hPlain.1, hPlain.2, hNone]
    simp [Script.selectionLines, Script.filterLines,
      Script.limitLines, plainFrame, nodes]
  · rcases request.selection?_cases with ⟨hFilter, hLimit, -⟩ | hSome
    · exact absurd ⟨hFilter, hLimit⟩ hPlain
    · have hFrom :
          Script.clause ("FROM " ++ (nodes ++ ":" ++ request.nodeAlias)) =
            "    FROM Nodes:" ++ request.nodeAlias := by
        rw [← String.toList_inj]
        simp [Script.clause, nodes]
      rw [if_neg hPlain, hSome, Script.selectionLines,
        Script.Selection.lines, selectLine_eq, hFrom]
      simp [Script.collectLines, selectingFrame, nodes, Script.inner]

/- A script for neighbors is in its frame. -/
theorem NeighborRequest.text_script
    (graphName : String)
    {request : NeighborRequest}
    (hProjection : request.restriction.projection? ≠ some []) :
    (request.script graphName).text =
      (frame graphName request.startType request.pattern).fill
        request.restriction
        (printText "Neighbors" request.restriction.projection?) := by
  rw [← terminated_outputLines hProjection, ← Frame.terminated_lines]
  refine congrArg (fun lines => Text.terminated lines ++ "\x7d") ?_
  simp only [Script.lines, script, Script.headLines, List.map_cons,
    List.map_nil, Script.commaLines, startLine_eq, seedLine_eq,
    Script.selectionLines, Script.Selection.lines, selectLine_eq,
    fromLine_eq, Script.collectLines]
  simp [frame, nodes, neighbors, Query.startNodes, Script.inner]

/- A script for edges is in its frame. -/
theorem EdgeRequest.text_script
    (graphName : String)
    (request : EdgeRequest) :
    (request.script graphName).text =
      (frame graphName request.sourceTypes request.pattern).fill
        request.restriction "  PRINT @@edges AS Edges;\n" := by
  have hPrint :
      "  PRINT @@edges AS Edges;\n" =
        Text.terminated
          (Script.Output.collected edgeAccumulator "Edges").lines := by
    rfl
  have hDeclaration :
      Script.inner accumulatorDeclaration =
        "  ListAccum<EDGE> @@edges;" := by
    rfl
  rw [hPrint, ← Frame.terminated_lines]
  refine congrArg (fun lines => Text.terminated lines ++ "\x7d") ?_
  simp only [Script.lines, script, Script.headLines, List.map_cons,
    List.map_nil, seedLine_eq, Script.selectionLines,
    Script.Selection.lines, selectLine_eq, fromLine_eq,
    accumLine_eq, hDeclaration]
  simp [frame, sources, results, Script.inner]

/-
  Every script is a frame that the restriction of its request has
  no part in, filled with the filter, the limit and what is to be
  printed.  A request for nodes has a frame for each of two cases:
  without filter and limit nothing is selected, and the alias does
  not occur.
-/
theorem Query.compile_fills_frames :
    (∀ graphName target name restriction query,
      NodeRequest.compile graphName ⟨target, name, restriction⟩ =
          .ok query ↔
        Text.isIdentifier graphName = true ∧ restriction.Sound ∧
          query =
            ⟨(if restriction.filter? = none ∧
                restriction.limit? = none then
              NodeRequest.plainFrame graphName target
            else
              NodeRequest.selectingFrame graphName target name).fill
                restriction
                (printText "Nodes" restriction.projection?),
              .empty⟩) ∧
      (∀ graphName startNodes startType p restriction query,
        NeighborRequest.compile graphName
            ⟨startNodes, startType, p, restriction⟩ = .ok query ↔
          Text.isIdentifier graphName = true ∧ startNodes ≠ [] ∧
            restriction.Sound ∧
            query =
              ⟨(NeighborRequest.frame graphName startType p).fill
                  restriction
                  (printText "Neighbors" restriction.projection?),
                startParameters startType startNodes⟩) ∧
      ∀ graphName sourceTypes p restriction query,
        EdgeRequest.compile graphName ⟨sourceTypes, p, restriction⟩ =
            .ok query ↔
          Text.isIdentifier graphName = true ∧ restriction.Sound ∧
            query =
              ⟨(EdgeRequest.frame graphName sourceTypes p).fill
                  restriction "  PRINT @@edges AS Edges;\n",
                .empty⟩ := by
  refine ⟨?_, ?_, ?_⟩
  · intro graphName target name restriction query
    rw [NodeRequest.compile_eq_ok_iff]
    constructor
    · rintro ⟨hName, hProjection, hLimit, rfl⟩
      refine ⟨hName, ⟨hProjection, hLimit⟩, ?_⟩
      rw [NodeRequest.text_script graphName hProjection]
    · rintro ⟨hName, hSound, rfl⟩
      refine ⟨hName, hSound.projection, hSound.limit, ?_⟩
      rw [NodeRequest.text_script graphName hSound.projection]
  · intro graphName startNodes startType p restriction query
    rw [NeighborRequest.compile_eq_ok_iff]
    constructor
    · rintro ⟨hName, hStart, hProjection, hLimit, rfl⟩
      refine ⟨hName, hStart, ⟨hProjection, hLimit⟩, ?_⟩
      rw [NeighborRequest.text_script graphName hProjection]
    · rintro ⟨hName, hStart, hSound, rfl⟩
      refine ⟨hName, hStart, hSound.projection, hSound.limit, ?_⟩
      rw [NeighborRequest.text_script graphName hSound.projection]
  · intro graphName sourceTypes p restriction query
    rw [EdgeRequest.compile_eq_ok_iff, EdgeRequest.text_script]
    constructor
    · rintro ⟨hName, hProjection, hLimit, rfl⟩
      exact ⟨hName, ⟨hProjection, hLimit⟩, rfl⟩
    · rintro ⟨hName, hSound, rfl⟩
      exact ⟨hName, hSound.projection, hSound.limit, rfl⟩

/- Without a filter and a limit the alias of persons is not used. -/
example :
    ((Query.persons "v").script "Social").text =
      "INTERPRET QUERY() FOR GRAPH Social \x7b\n" ++
        "  Nodes = \x7bPerson.*\x7d;\n" ++
        "  PRINT Nodes[\n" ++
        "    Nodes.id AS id,\n" ++
        "    Nodes.age AS age\n" ++
        "  ];\n\x7d" := by
  rfl

end GraphClient
