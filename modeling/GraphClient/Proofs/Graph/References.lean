import GraphClient.Proofs.Graph.Ledger
import GraphClient.Proofs.Graph.Validity
import GraphClient.Proofs.Query.Layout
import GraphClient.Proofs.Schema.Values
/-
  Every operation resolves a reference to a node type alike.

  Key definitions include:
    * `GraphClient.Action.nodeRef?`
    * `GraphClient.GraphError.isTypeFault`
    * `GraphClient.Call.IsFor`
    * `GraphClient.Operation.Concerns`

  Key theorems include:
    * `GraphClient.Action.ensures_of_unresolved`
    * `GraphClient.Action.ensures_of_resolved`
    * `GraphClient.Action.resolves_alike`

  A reference that does not resolve is the first fault of every
  operation that takes one, and it is reported as it stands, also
  where a request has found it.  One that resolves is no fault
  any more, and what is then asked is asked for its type.
-/

------------------------------------------------------------
-- Faults in References
------------------------------------------------------------

namespace GraphClient

/- Whether an error says that a reference does not resolve. -/
def SchemaError.isTypeFault : SchemaError → Bool
| .unknownType _ _ => true
| .ambiguousType _ _ => true
| _ => false

/- Whether an error says so, also as the fault of a request. -/
def GraphError.isTypeFault : GraphError → Bool
| .schema e => e.isTypeFault
| .request (.schema e) => e.isTypeFault
| _ => false

/- Values that do not fit are no fault of a reference. -/
theorem AttributeType.isTypeFault_of_checkValues
    {typeName : String}
    {attributes : OrderedMap AttributeType}
    {values : Entries Value}
    {e : SchemaError}
    (hCheck : checkValues typeName attributes values = .error e) :
    e.isTypeFault = false := by
  rcases exists_of_checkValues_eq_error hCheck with ⟨entry, _, rfl⟩
  unfold fault
  cases attributes.get? entry.1 <;> rfl

end GraphClient

------------------------------------------------------------
-- Calls for a Type
------------------------------------------------------------

namespace GraphClient

/-
  A script that starts from all nodes of a type: they are the set
  of its second line.
-/
def Script.StartsFromAll
    (name text : String)
    (parameters : Parameters) :
    Prop :=
  parameters = .empty ∧
    ∃ (script : Script) (rest : List String),
      script.text = text ∧ script.parameters = [] ∧
        script.seed.source = name ++ ".*" ∧
        text =
          Text.terminated
              (["INTERPRET QUERY() FOR GRAPH " ++
                  script.graphName ++ " \x7b",
                "  Nodes = \x7b" ++ name ++ ".*\x7d;"] ++ rest) ++
            "\x7d"

/-
  A script that starts from some nodes of a type: they are the
  values of its one parameter, which is declared for that type on
  the second line.
-/
def Script.StartsFromSome
    (name text : String)
    (parameters : Parameters) :
    Prop :=
  (∃ ids : List String,
      parameters.entries =
        [("start_nodes", .nodes (ids.map (fun id => ⟨name, id⟩)))]) ∧
    ∃ (script : Script) (declared rest : List String),
      script.text = text ∧
        script.parameters =
          ["SET<VERTEX<" ++ name ++ ">> start_nodes"] ∧
        script.seed.source = "start_nodes" ∧
        (declared = [] ∨ declared = ["  ListAccum<EDGE> @@edges;"]) ∧
        text =
          Text.terminated
              (["INTERPRET QUERY(",
                "  SET<VERTEX<" ++ name ++ ">> start_nodes",
                ") FOR GRAPH " ++ script.graphName ++ " \x7b"] ++
                declared ++
                "  Nodes = \x7bstart_nodes\x7d;" :: rest) ++
            "\x7d"

/-
  Calls for nodes of one type: it is the type of the node or the
  nodes they name, of the node they bind, or of the nodes from
  which their script starts.
-/
def Call.IsFor
    (name : String) :
    Call → Prop
| .upsertNode node _ => node.type = name
| .upsertNodes type _ => type = name
| .retrieveNode node => node.type = name
| .deleteNode node => node.type = name
| .runInstalled _ parameters =>
    ∃ id, parameters.get? "input" = some (.node ⟨name, id⟩)
| .runInterpreted text parameters =>
    Script.StartsFromAll name text parameters ∨
      Script.StartsFromSome name text parameters
| _ => False

/- A request for the nodes of a type starts from all of them. -/
theorem NodeRequest.startsFromAll
    (graphName name nodeAlias : String)
    (restriction : Restriction) :
    Script.StartsFromAll name
      (script graphName ⟨.type name, nodeAlias, restriction⟩).text
      .empty := by
  let request : NodeRequest := ⟨.type name, nodeAlias, restriction⟩
  refine ⟨rfl, request.script graphName,
    Script.selectionLines request.selection? ++
      (Script.Output.nodes Query.nodes
        restriction.projection?).lines,
    rfl, rfl, rfl, ?_⟩
  rw [Script.text, lines_script, List.append_assoc]
  rfl

/- The start nodes are declared for their type. -/
theorem Query.startDeclaration_eq
    (name : String) :
    startDeclaration name =
      "SET<VERTEX<" ++ name ++ ">> start_nodes" := by
  rw [startDeclaration, String.append_assoc]
  rfl

/- A script with start nodes and a seed of them starts from some. -/
theorem Script.startsFromSome
    {script : Script}
    {name : String}
    (hParameters : script.parameters = [Query.startDeclaration name])
    (hSeed : script.seed = ⟨"Nodes", "start_nodes"⟩)
    (hDeclared :
      script.declarations = [] ∨
        script.declarations = [Query.accumulatorDeclaration])
    (ids : List String) :
    StartsFromSome name script.text
      (Query.startParameters name ids) := by
  refine ⟨⟨ids, rfl⟩, script, script.declarations.map inner,
    selectionLines script.selection? ++ script.output.lines,
    rfl, ?_, ?_, ?_, ?_⟩
  · rw [hParameters, Query.startDeclaration_eq]
  · rw [hSeed]
  · exact hDeclared.imp (congrArg (List.map inner))
      (congrArg (List.map inner))
  · simp only [text, lines, hParameters, hSeed, headLines,
      List.map_cons, List.map_nil, commaLines, Query.startLine_eq,
      Query.seedLine_eq]
    simp

end GraphClient

------------------------------------------------------------
-- Operations for a Type
------------------------------------------------------------

namespace GraphClient

namespace Operation

variable {α β ε : Type} {name : String}

/-
  Whatever its calls come to, an operation finds no fault with a
  reference, and makes calls for nodes of one type only.
-/
def Concerns
    (name : String)
    (c : Operation α) :
    Prop :=
  c.Ensures (fun r xs =>
    (∀ e, errorOf? r = some e → e.isTypeFault = false) ∧
      ∀ x ∈ xs, x.call.IsFor name)

/- A result concerns every type. -/
theorem concerns_succeed
    (a : α) :
    (succeed a).Concerns name := by
  refine ⟨?_, List.forall_mem_nil _⟩
  intro e hError
  cases hError

/- An error that is no fault of a reference concerns any type. -/
theorem concerns_fail
    {e : GraphError}
    (hFault : e.isTypeFault = false) :
    (fail e : Operation α).Concerns name := by
  refine ⟨?_, List.forall_mem_nil _⟩
  intro found hError
  cases hError
  exact hFault

/- A check refuses for something else, or leads on. -/
theorem concerns_require
    {cause : ε → GraphError}
    {check : Except ε β}
    {next : β → Operation α}
    (hCause :
      ∀ e, check = .error e → (cause e).isTypeFault = false)
    (hNext : ∀ b, check = .ok b → (next b).Concerns name) :
    (require cause check next).Concerns name := by
  cases check with
  | ok b => exact hNext b rfl
  | error e => exact concerns_fail (hCause e rfl)

/- A call for the type leads on. -/
theorem concerns_ask
    {call : Call}
    {next : call.Outcome → Operation α}
    (hCall : call.IsFor name)
    (hNext : ∀ o, (next o).Concerns name) :
    Concerns name (.ask call next) := by
  intro o
  apply (hNext o).mono
  rintro r xs ⟨hError, hCalls⟩
  exact ⟨hError, List.forall_mem_cons.mpr ⟨hCall, hCalls⟩⟩

/- An attempt to make a call for the type has a result. -/
theorem concerns_always_attempt
    {call : Call}
    (hCall : call.IsFor name) :
    (always (.attempt call)).Concerns name :=
  concerns_ask hCall (fun o => concerns_succeed o.toOption)

/- A check that refuses has the last word. -/
theorem ensures_require_of_error
    {cause : ε → GraphError}
    {check : Except ε β}
    {next : β → Operation α}
    {e : ε}
    (hCheck : check = .error e) :
    (require cause check next).Ensures (fun r xs =>
      errorOf? r = some (cause e) ∧ xs = []) := by
  subst hCheck
  exact ⟨rfl, rfl⟩

end Operation

end GraphClient

------------------------------------------------------------
-- Blank Requests
------------------------------------------------------------

namespace GraphClient

/- The alias of the first node passes. -/
theorem Alias.check_start :
    check start = .ok () :=
  check_eq_ok_iff.mpr (by decide +kernel)

/- The aliases of any edge to any node pass. -/
theorem Pattern.check_any :
    any.check = .ok () :=
  Alias.checkAll_eq_ok_iff.mpr (by decide +kernel)

/-
  A request for the nodes of a type is built exactly when the
  reference to that type resolves.
-/
theorem NodeRequest.Form.buildWith_blank
    (schema : Schema)
    (ref : TypeRef) :
    buildWith schema { blank with type? := ref } =
      match schema.resolveNode ref with
      | .ok name => .ok ⟨.type name, Alias.start, .none⟩
      | .error e => .error (.schema e) := by
  unfold buildWith resolvedTarget
  cases hType : schema.resolveNode ref with
  | error e => rfl
  | ok name =>
      change finish { blank with type? := ref } (.type name) = .ok _
      exact Checks.next_eq_ok_iff.mpr ⟨Alias.check_start, rfl⟩

/-
  A request for neighbors is built when the reference to the
  type of its start nodes resolves and there is a start node; the
  reference is looked at first.
-/
theorem NeighborRequest.Form.buildWith_blank
    (schema : Schema)
    (startNodes : List String)
    (ref : TypeRef) :
    buildWith schema { blank startNodes with startType? := ref } =
      match schema.resolveNode ref with
      | .ok name =>
          if startNodes.isEmpty then
            .error .noStartNodes
          else
            .ok ⟨startNodes, name, .any, .none⟩
      | .error e => .error (.schema e) := by
  unfold buildWith resolveTypes
  cases hType : schema.resolveNode ref with
  | error e => rfl
  | ok name =>
      cases startNodes with
      | nil => rfl
      | cons id ids =>
          change finish (blank (id :: ids)) name = .ok _
          exact Checks.next_eq_ok_iff.mpr ⟨Pattern.check_any, rfl⟩

namespace Graph

/- A query that is for a type makes a table of that type. -/
theorem concerns_tabulate
    {name : String}
    {query : Except CompileError Query}
    {table : Response → Table}
    (hQuery :
      ∀ found, query = .ok found →
        Call.IsFor name
          (.runInterpreted found.script found.parameters)) :
    (tabulate query table).Concerns name := by
  apply Operation.concerns_require (fun _ _ => rfl)
  intro found hFound
  apply Operation.concerns_ask (hQuery found hFound)
  intro (o : Except RemoteError Response)
  cases o with
  | ok response => exact Operation.concerns_succeed _
  | error e => exact Operation.concerns_succeed _

/- The query of a request for nodes is for their type. -/
theorem concerns_findNodes
    (g : Graph)
    (name : String)
    (restriction : Restriction) :
    (g.findNodes ⟨.type name, Alias.start, restriction⟩).Concerns
      name := by
  apply concerns_tabulate
  intro query hQuery
  rcases NodeRequest.compile_eq_ok_iff.mp hQuery with
    ⟨_, _, _, rfl⟩
  exact Or.inl (NodeRequest.startsFromAll ..)

/- The query of a request for neighbors is for its start type. -/
theorem concerns_findNeighbors
    (g : Graph)
    (request : NeighborRequest) :
    (g.findNeighbors request).Concerns request.startType := by
  apply concerns_tabulate
  intro query hQuery
  rcases NeighborRequest.compile_eq_ok_iff.mp hQuery with
    ⟨_, _, _, _, rfl⟩
  exact Or.inr
    (Script.startsFromSome rfl rfl (Or.inl rfl) request.startNodes)

end Graph

end GraphClient

------------------------------------------------------------
-- Exact Operations
------------------------------------------------------------

namespace GraphClient

namespace Graph

namespace Exact

/- Adding a node of a defined type concerns that type. -/
theorem concerns_addNode
    {g : Graph}
    {node : NodeRef}
    {nodeType : NodeType}
    (hType : g.schema.node node.type = .ok nodeType)
    (bag : Bag) :
    (addNode g node bag).Concerns node.type := by
  apply Operation.concerns_require
  · intro e hCheck
    rw [hType] at hCheck
    exact AttributeType.isTypeFault_of_checkValues hCheck
  · intro u _
    exact Operation.concerns_always_attempt rfl

/- Adding nodes of a defined type concerns that type. -/
theorem concerns_addNodes
    {g : Graph}
    {type : String}
    {nodeType : NodeType}
    (hType : g.schema.node type = .ok nodeType)
    (nodes : List (String × Bag))
    (common : Bag) :
    (addNodes g type nodes common).Concerns type := by
  apply Operation.concerns_require
  · intro e hCheck
    unfold Batch.nodes at hCheck
    rw [hType] at hCheck
    rcases Batch.exists_of_prepare_eq_error hCheck with ⟨bag, hBag⟩
    exact AttributeType.isTypeFault_of_checkValues hBag
  · intro batch _
    exact Operation.concerns_always_attempt rfl

/- Removing a node concerns its type. -/
theorem concerns_removeNode
    (node : NodeRef) :
    (Operation.always (removeNode node)).Concerns node.type := by
  refine Operation.concerns_ask rfl ?_
  intro (o : Except RemoteError Nat)
  cases o with
  | ok deleted => exact Operation.concerns_succeed _
  | error e => exact Operation.concerns_succeed _

/- Looking for a node concerns its type. -/
theorem concerns_hasNode
    (node : NodeRef) :
    (Operation.always (hasNode node)).Concerns node.type := by
  refine Operation.concerns_ask rfl ?_
  intro (o : Except RemoteError (List Json))
  cases o with
  | ok records => exact Operation.concerns_succeed _
  | error e => exact Operation.concerns_succeed _

/- Asking for the values of a node concerns its type. -/
theorem concerns_nodeData
    (node : NodeRef) :
    (nodeData node).Concerns node.type := by
  refine Operation.concerns_ask rfl ?_
  intro (o : Except RemoteError (List Json))
  cases o with
  | ok records => exact Operation.concerns_succeed _
  | error e =>
      change Operation.Concerns _
        (if e.isNotFound then Operation.fail (.noSuchNode node)
        else Operation.succeed none)
      cases e.isNotFound with
      | true => exact Operation.concerns_fail rfl
      | false => exact Operation.concerns_succeed _

/- Sampling the edges of a node concerns its type. -/
theorem concerns_nodeEdges
    (g : Graph)
    (node : NodeRef)
    (edgeTypes : List String) :
    (nodeEdges g node edgeTypes).Concerns node.type := by
  apply Operation.concerns_require (fun _ _ => rfl)
  intro query hQuery
  have hStarts :
      Script.StartsFromSome node.type query.script
        query.parameters := by
    unfold compileNodeEdges at hQuery
    rw [Checks.next_eq_ok_iff, Checks.next_eq_ok_iff,
      Checks.pure_eq_ok_iff] at hQuery
    rcases hQuery with ⟨_, _, rfl⟩
    exact Script.startsFromSome rfl rfl (Or.inr rfl) [node.id]
  refine Operation.concerns_ask (Or.inr hStarts) ?_
  intro (o : Except RemoteError Response)
  cases o with
  | ok response => exact Operation.concerns_succeed _
  | error e => exact Operation.concerns_succeed _

end Exact

end Graph

end GraphClient

------------------------------------------------------------
-- Main Result
------------------------------------------------------------

namespace GraphClient

namespace Action

/- The reference of an action to the type of its nodes. -/
def nodeRef? : Action → Option TypeRef
| .addNode _ type _ => some type
| .addNodes _ type _ => some type
| .removeNode _ type => some type
| .hasNode _ type => some type
| .nodeData _ type => some type
| .nodeEdges _ type _ => some type
| .degree _ type _ => some type
| .nodes type => some type
| .neighbors _ type => some type
| _ => none

/-
  A reference that does not resolve is what an action reports,
  and the action makes no call.
-/
theorem ensures_of_unresolved
    {g : Graph}
    {action : Action}
    {ref : TypeRef}
    {e : SchemaError}
    (hRef : action.nodeRef? = some ref)
    (hError : g.schema.resolveNode ref = .error e) :
    (action.conversation g).Ensures (fun r xs =>
      action.error? r = some (.schema e) ∧ xs = []) := by
  cases action <;> cases hRef
  -- a request reports the fault of its reference as that of the graph
  case nodes =>
    have hBuild := NodeRequest.Form.buildWith_blank g.schema ref
    rw [hError] at hBuild
    exact Operation.ensures_require_of_error hBuild
  case neighbors startNodes =>
    have hBuild := NeighborRequest.Form.buildWith_blank g.schema
      startNodes ref
    rw [hError] at hBuild
    exact Operation.ensures_require_of_error hBuild
  all_goals exact Operation.ensures_require_of_error hError

/-
  Once the reference has resolved, an action reports no fault of
  a reference, and all that it asks for is of the type found.
-/
theorem ensures_of_resolved
    {g : Graph}
    {action : Action}
    {ref : TypeRef}
    {name : String}
    (hRef : action.nodeRef? = some ref)
    (hName : g.schema.resolveNode ref = .ok name) :
    (action.conversation g).Ensures (fun r xs =>
      (∀ e, action.error? r = some e → e.isTypeFault = false) ∧
        ∀ x ∈ xs, x.call.IsFor name) := by
  rcases Schema.exists_node_of_resolve hName with ⟨nodeType, hGet⟩
  have hType : g.schema.node name = .ok nodeType :=
    Schema.node_eq_ok_iff.mpr hGet
  cases action <;> cases hRef
  case addNode id bag =>
    exact Operation.ensures_require_of_ok hName
      (Graph.Exact.concerns_addNode hType bag)
  case addNodes items common =>
    exact Operation.ensures_require_of_ok hName
      (Graph.Exact.concerns_addNodes hType items common)
  case removeNode id =>
    exact Operation.ensures_require_of_ok hName
      (Graph.Exact.concerns_removeNode ⟨name, id⟩)
  case hasNode id =>
    exact Operation.ensures_require_of_ok hName
      (Graph.Exact.concerns_hasNode ⟨name, id⟩)
  case nodeData id =>
    exact Operation.ensures_require_of_ok hName
      (Graph.Exact.concerns_nodeData ⟨name, id⟩)
  case nodeEdges id edgeTypes =>
    exact Operation.ensures_require_of_ok hName
      (Graph.Exact.concerns_nodeEdges g ⟨name, id⟩ edgeTypes)
  case degree id edgeTypes =>
    apply Operation.ensures_require_of_ok hName
    refine Operation.concerns_ask ⟨id, rfl⟩ ?_
    intro (o : Except RemoteError Response)
    cases o with
    | ok response => exact Operation.concerns_succeed _
    | error e => exact Operation.concerns_succeed _
  case nodes =>
    have hBuild := NodeRequest.Form.buildWith_blank g.schema ref
    rw [hName] at hBuild
    exact Operation.ensures_require_of_ok hBuild
      (g.concerns_findNodes name .none)
  case neighbors startNodes =>
    have hBuild := NeighborRequest.Form.buildWith_blank g.schema
      startNodes ref
    rw [hName] at hBuild
    apply Operation.concerns_require
    · -- all that can be missing is a node to start from
      intro e hRefused
      simp only [hBuild] at hRefused
      split at hRefused
      · cases hRefused
        rfl
      · cases hRefused
    · intro request hRequest
      simp only [hBuild] at hRequest
      split at hRequest
      · cases hRequest
      · cases hRequest
        exact g.concerns_findNeighbors _

/-
  Whatever a service answers and whatever its other arguments
  are: an action with a reference to a node type that does not
  resolve ends with that error and makes no call; if it resolves
  the action reports no fault of a reference, and every call is
  for the type found.
-/
theorem resolves_alike
    {σ : Type}
    (g : Graph)
    (service : Service σ)
    (s : σ)
    (action : Action)
    (ref : TypeRef)
    (hRef : action.nodeRef? = some ref) :
    match g.schema.resolveNode ref with
    | .error e =>
        action.error? ((action.conversation g).run service s).1 =
            some (.schema e) ∧
          (action.conversation g).calls service s = []
    | .ok name =>
        (∀ e,
            action.error?
                ((action.conversation g).run service s).1 =
              some e →
            e.isTypeFault = false) ∧
          ∀ call ∈ (action.conversation g).calls service s,
            call.IsFor name := by
  rw [Conversation.calls_eq_map_exchanges]
  cases hResolve : g.schema.resolveNode ref with
  | error e =>
      rcases (ensures_of_unresolved hRef hResolve).run service s with
        ⟨hError, hNone⟩
      exact ⟨hError, by rw [hNone]; rfl⟩
  | ok name =>
      rcases (ensures_of_resolved hRef hResolve).run service s with
        ⟨hErrors, hCalls⟩
      exact ⟨hErrors, List.forall_mem_map.mpr hCalls⟩

/-
  Neighbors of nodes of a type that is not defined are refused
  for that type, although there are no nodes to start from; a
  sample of edges is one of a person.
-/
theorem resolves_alike_acquaintance :
    (neighbors [] (some "Ghost")).error?
          (((neighbors [] (some "Ghost")).conversation
            .acquaintance).run Store.service .empty).1 =
        some (.schema (.unknownType .node "Ghost")) ∧
      ∀ call ∈ ((nodeEdges "ann" none []).conversation
          .acquaintance).calls Store.service .empty,
        call.IsFor "Person" :=
  ⟨(resolves_alike .acquaintance Store.service .empty
      (neighbors [] (some "Ghost")) (some "Ghost") rfl).1,
    (resolves_alike .acquaintance Store.service .empty
      (nodeEdges "ann" none []) none rfl).2⟩

end Action

end GraphClient
