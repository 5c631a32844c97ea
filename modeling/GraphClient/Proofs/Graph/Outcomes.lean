import GraphClient.Proofs.Graph.Ledger
import GraphClient.Proofs.Graph.Validity
/-
  What an action ends with, given what its calls came to.

  Key definitions include:
    * `GraphClient.Action.Follows`
    * `GraphClient.Action.administers`

  Key theorems include:
    * `GraphClient.Action.ensures_of_valid`
    * `GraphClient.Action.failure_policy`

  An action that passes validation makes its calls whatever
  state the remote graph is in.  A failed call leads to what
  says the least; only a missing node or edge whose values are
  asked for, and the commands that create or remove a graph,
  lead to an error.
-/

------------------------------------------------------------
-- Policies
------------------------------------------------------------

namespace GraphClient

/- One call was made, and its outcome has a property. -/
def Asked
    (call : Call)
    (P : call.Outcome → Prop)
    (xs : List Exchange) :
    Prop :=
  ∃ o : call.Outcome, xs = [⟨call, o⟩] ∧ P o

/- Whether a call failed as what it is about is not there. -/
def FindsNothing
    {α : Type}
    (outcome : Except RemoteError α) :
    Prop :=
  ∃ text, outcome = .error (.notFound text)

/- A write has no number exactly when its call fails. -/
def Writes
    (call : Call)
    (r : Except GraphError (Option Nat)) :
    List Exchange → Prop :=
  Asked call (fun o => r = .ok none ↔ Fails o)

/- A test says no when its call fails. -/
def Tests
    (call : Call)
    (r : Except GraphError Bool) :
    List Exchange → Prop :=
  Asked call (fun o => Fails o → r = .ok false)

/-
  Values are looked up: that there is nothing is the only error,
  and every other failure of the call gives no values.
-/
def LooksUp
    (call : Call)
    (missing : GraphError)
    (r : Except GraphError (Option (Entries Json))) :
    List Exchange → Prop :=
  Asked call (fun o =>
    (∀ e, r = .error e ↔ e = missing ∧ FindsNothing o) ∧
      (Fails o → ¬ FindsNothing o → r = .ok none))

/- A query is run for a table, which is empty if it fails. -/
def Tabulates
    (query : Except CompileError Query)
    (r : Except GraphError Table)
    (xs : List Exchange) :
    Prop :=
  ∃ found : Query,
    query = .ok found ∧
      Asked (.runInterpreted found.script found.parameters)
        (fun o => Fails o →
          ∃ t, r = .ok t ∧ t.columns = [] ∧ t.rows = []) xs

/- A command reports the error of its call, and that one only. -/
def Commands
    (text : String)
    (r : Except GraphError Unit) :
    List Exchange → Prop :=
  Asked (.runCommand text)
    (fun o => ∀ e, r = .error (.remote e) ↔ o = .error e)

namespace Action

/-
  How the result of an action follows from its exchanges: which
  calls are made, and what is given when one of them fails.
-/
def Follows
    (g : Graph) :
    (action : Action) → action.Result → List Exchange → Prop
| .addNode id type bag, r, xs =>
    ∃ name, g.schema.resolveNode type = .ok name ∧
      Writes (.upsertNode ⟨name, id⟩ bag) r xs
| .addNodes items type common, r, xs =>
    ∃ name, g.schema.resolveNode type = .ok name ∧
      Writes (.upsertNodes name (Batch.merged common items)) r xs
| .addEdge ends types bag, r, xs =>
    ∃ route, g.schema.resolveRoute types = .ok route ∧
      Writes (.upsertEdge ⟨route, ends⟩ bag) r xs
| .addEdges items types common, r, xs =>
    ∃ route, g.schema.resolveRoute types = .ok route ∧
      Writes (.upsertEdges route (Batch.merged common items)) r xs
| .removeNode id type, r, xs =>
    ∃ name, g.schema.resolveNode type = .ok name ∧
      Tests (.deleteNode ⟨name, id⟩) r xs
| .hasNode id type, r, xs =>
    ∃ name, g.schema.resolveNode type = .ok name ∧
      Tests (.retrieveNode ⟨name, id⟩) r xs
| .hasEdge ends types, r, xs =>
    ∃ route, g.schema.resolveRoute types = .ok route ∧
      Tests (.countLink ⟨route, ends⟩) r xs
| .nodeData id type, r, xs =>
    ∃ name, g.schema.resolveNode type = .ok name ∧
      LooksUp (.retrieveNode ⟨name, id⟩)
        (.noSuchNode ⟨name, id⟩) r xs
| .edgeData ends types, r, xs =>
    ∃ route, g.schema.resolveRoute types = .ok route ∧
      LooksUp (.getLink ⟨route, ends⟩)
        (.noSuchLink ⟨route, ends⟩) r xs
| .nodeEdges id type edgeTypes, r, xs =>
    ∃ name query,
      g.schema.resolveNode type = .ok name ∧
        compileNodeEdges g.name name id edgeTypes
            g.options.edgeSamples =
          .ok query ∧
        Asked (.runInterpreted query.script query.parameters)
          (fun o => Fails o → r = .ok []) xs
| .degree id type edgeTypes, r, xs =>
    ∃ name, g.schema.resolveNode type = .ok name ∧
      Asked (.runInstalled g.options.degreeQuery
          (Graph.degreeParameters ⟨name, id⟩ edgeTypes))
        (fun o => Fails o → r = .ok 0) xs
| .runQuery name parameters, r, xs =>
    Asked (.runInstalled name parameters)
      (fun o => Fails o → r = none) xs
| .nodes type, r, xs =>
    ∃ request,
      NodeRequest.Form.buildWith g.schema
          { NodeRequest.Form.blank with type? := type } =
        .ok request ∧
      Tabulates (request.compile g.name) r xs
| .neighbors startNodes type, r, xs =>
    ∃ request,
      NeighborRequest.Form.buildWith g.schema
          { NeighborRequest.Form.blank startNodes with
            startType? := type } =
        .ok request ∧
      Tabulates (request.compile g.name) r xs
| .edges type, r, xs =>
    ∃ request,
      EdgeRequest.Form.buildWith g.schema
          { EdgeRequest.Form.blank with
            pattern :=
              { Pattern.any with
                edgeTypes := (TypeRef.name? type).toList } } =
        .ok request ∧
      Tabulates (request.compile g.name) r xs
| .findNodes request, r, xs =>
    Tabulates (request.compile g.name) r xs
| .findNeighbors request, r, xs =>
    Tabulates (request.compile g.name) r xs
| .findEdges request, r, xs =>
    Tabulates (request.compile g.name) r xs
| .clear, r, xs =>
    UpToFailure (g.schema.nodes.keys.map .deleteNodes) xs ∧
      (r = false ↔ ∃ x ∈ xs, x.Failed)
| .nodeCount type, r, xs =>
    xs.map Exchange.call =
        (type.counted g.schema.nodes.keys).map .countNodes ∧
      r = .ok (Exchange.total xs)
| .edgeCount type, r, xs =>
    xs.map Exchange.call =
        (type.counted g.schema.edges.keys).map .countEdges ∧
      r = .ok (Exchange.total xs)
| .createSchema dropsExisting, r, xs =>
    ∃ before after,
      xs = before ++ after ∧
        before.map Exchange.call =
          (if dropsExisting then
            [.runCommand (Schema.removalScript g.name)]
          else
            []) ∧
        Commands g.schema.creationScript r after
| .drop, r, xs => Commands (Schema.removalScript g.name) r xs
| .installQueries, r, xs =>
    Commands (degreeScript g.name g.options.degreeQuery) r xs

/- Whether an action creates or removes a graph or its queries. -/
def administers : Action → Bool
| .createSchema _ => true
| .drop => true
| .installQueries => true
| _ => false

/-
  What an action may report once it has passed validation: no
  refusal, and the error of a call only if it administers.
-/
def Reports
    (action : Action)
    (r : action.Result) :
    Prop :=
  ∀ e, action.error? r = some e →
    e.isRefusal = false ∧
      ∀ cause, e = .remote cause → action.administers = true

/- An action without an error reports nothing. -/
theorem reports_of_none
    {action : Action}
    {r : action.Result}
    (hNone : action.error? r = none) :
    action.Reports r := by
  intro e hError
  rw [hNone] at hError
  cases hError

end Action

end GraphClient

------------------------------------------------------------
-- Single Calls
------------------------------------------------------------

namespace GraphClient

/- What has a value has not failed. -/
@[simp]
theorem not_fails_ok
    {ε α : Type}
    (a : α) :
    ¬ Fails (.ok a : Except ε α) := by
  rintro ⟨e, he⟩
  cases he

namespace Operation

/- An attempted call gives nothing exactly when it fails. -/
theorem ensures_always_attempt
    (call : Call) :
    (always (.attempt call)).Ensures (fun r xs =>
      Asked call (fun o => r = .ok none ↔ Fails o) xs ∧
        errorOf? r = none) := by
  apply Conversation.ensures_map
  intro o
  refine ⟨⟨o, rfl, ?_⟩, rfl⟩
  cases o with
  | ok answer => simp [Except.toOption]
  | error e => simp [Except.toOption, Fails]

/- A call whose failure gives a certain value reports nothing. -/
theorem ensures_fallback
    {α : Type}
    {call : Call}
    {next : call.Outcome → Operation α}
    {fallback : α}
    (hAnswered : ∀ answer, ∃ a, next (.ok answer) = succeed a)
    (hFailed : ∀ e, next (.error e) = succeed fallback) :
    (Conversation.ask call next).Ensures (fun r xs =>
      Asked call (fun o => Fails o → r = .ok fallback) xs ∧
        errorOf? r = none) := by
  intro o
  cases o with
  | ok answer =>
      rcases hAnswered answer with ⟨a, hNext⟩
      rw [hNext]
      refine ⟨⟨.ok answer, rfl, ?_⟩, rfl⟩
      exact fun hFails => (not_fails_ok answer hFails).elim
  | error e =>
      rw [hFailed]
      exact ⟨⟨.error e, rfl, fun _ => rfl⟩, rfl⟩

end Operation

namespace Graph

namespace Exact

/-
  Looking up values tells a call that finds nothing from every
  other failure.
-/
theorem ensures_attributesOf
    (missing : GraphError)
    (o : Except RemoteError (List Json)) :
    (attributesOf missing o).Ensures (fun r xs =>
      xs = [] ∧
        (∀ e, r = .error e ↔ e = missing ∧ FindsNothing o) ∧
        (Fails o → ¬ FindsNothing o → r = .ok none)) := by
  cases o with
  | ok records =>
      refine ⟨rfl, ?_, fun h => (not_fails_ok records h).elim⟩
      intro e
      simp [FindsNothing]
  | error cause =>
      unfold attributesOf
      cases cause with
      | notFound text =>
          refine ⟨rfl, ?_, ?_⟩
          · intro e
            simp [FindsNothing, eq_comm]
          · exact fun _ hFound => (hFound ⟨text, rfl⟩).elim
      | _ => exact ⟨rfl, by simp [FindsNothing], fun _ _ => rfl⟩

/- The values of a node are looked up. -/
theorem ensures_nodeData
    (node : NodeRef) :
    (nodeData node).Ensures (fun r xs =>
      LooksUp (.retrieveNode node) (.noSuchNode node) r xs) := by
  intro o
  apply (ensures_attributesOf (.noSuchNode node) o).mono
  rintro r xs ⟨rfl, hPolicy⟩
  exact ⟨o, rfl, hPolicy⟩

/- The values of an edge are looked up. -/
theorem ensures_edgeData
    (link : Link) :
    (edgeData link).Ensures (fun r xs =>
      LooksUp (.getLink link) (.noSuchLink link) r xs) := by
  intro o
  apply (ensures_attributesOf (.noSuchLink link) o).mono
  rintro r xs ⟨rfl, hPolicy⟩
  exact ⟨o, rfl, hPolicy⟩

end Exact

end Graph

/- The only error of a look-up is that there is nothing. -/
theorem LooksUp.error_eq
    {call : Call}
    {missing e : GraphError}
    {r : Except GraphError (Option (Entries Json))}
    {xs : List Exchange}
    (hLooksUp : LooksUp call missing r xs)
    (hError : Operation.errorOf? r = some e) :
    e = missing := by
  rcases hLooksUp with ⟨o, _, hErrors, _⟩
  cases r with
  | ok values => cases hError
  | error found =>
      cases hError
      exact ((hErrors e).mp rfl).1

namespace Graph

/- A query that is there is run for a table. -/
theorem ensures_tabulate
    {query : Except CompileError Query}
    {table : Response → Table}
    (hQuery : ∃ found, query = .ok found) :
    (tabulate query table).Ensures (fun r xs =>
      Tabulates query r xs ∧ Operation.errorOf? r = none) := by
  rcases hQuery with ⟨found, rfl⟩
  refine Conversation.Ensures.mono
    (Operation.ensures_fallback (fun _ => ⟨_, rfl⟩)
      (fun _ => rfl)) ?_
  rintro r xs ⟨⟨o, hExchange, hFallback⟩, hNone⟩
  refine ⟨⟨found, rfl, o, hExchange, ?_⟩, hNone⟩
  intro hFails
  exact ⟨.empty, hFallback hFails, rfl, rfl⟩

/- A request that is built is compiled and run for a table. -/
theorem ensures_request
    {ρ : Type}
    {built : Except RequestError ρ}
    {compile : ρ → Except CompileError Query}
    {table : ρ → Response → Table}
    (hBuilt :
      ∃ request query,
        built = .ok request ∧ compile request = .ok query) :
    (Operation.require .ofRequest built
      (fun request =>
        tabulate (compile request) (table request))).Ensures
      (fun r xs =>
        (∃ request,
          built = .ok request ∧ Tabulates (compile request) r xs) ∧
          Operation.errorOf? r = none) := by
  rcases hBuilt with ⟨request, query, hRequest, hQuery⟩
  apply Operation.ensures_require_of_ok hRequest
  apply (ensures_tabulate ⟨query, hQuery⟩).mono
  rintro r xs ⟨hTable, hNone⟩
  exact ⟨⟨request, hRequest, hTable⟩, hNone⟩

/-
  A command reports the error of its call, or what is made of
  the output.
-/
theorem ensures_command
    {text : String}
    {judge : String → Except GraphError Unit}
    (hJudge :
      ∀ output e, judge output = .error e →
        e.isRefusal = false ∧ ∀ cause, e ≠ .remote cause) :
    (command text judge).Ensures (fun r xs =>
      Commands text r xs ∧
        ∀ e, Operation.errorOf? r = some e →
          e.isRefusal = false) := by
  intro (o : Except RemoteError String)
  cases o with
  | ok output =>
      refine ⟨⟨.ok output, rfl, ?_⟩, ?_⟩
      · intro e
        constructor
        · intro hError
          exact ((hJudge output _ hError).2 e rfl).elim
        · intro hError
          cases hError
      · intro e hError
        change Operation.errorOf? (judge output) = some e at hError
        cases hOutput : judge output with
        | ok u =>
            rw [hOutput] at hError
            cases hError
        | error found =>
            rw [hOutput] at hError
            cases hError
            exact (hJudge output e hOutput).1
  | error cause =>
      refine ⟨⟨.error cause, rfl, ?_⟩, ?_⟩
      · intro e
        simp
      · intro e hError
        cases hError
        rfl

/- Creating all types is a command. -/
theorem ensures_createTypes
    (g : Graph) :
    g.createTypes.Ensures (fun r xs =>
      Commands g.schema.creationScript r xs ∧
        ∀ e, Operation.errorOf? r = some e →
          e.isRefusal = false) := by
  apply ensures_command
  intro output e hError
  unfold judgeCreation at hError
  split at hError
  · cases hError
  · cases hError
    exact ⟨rfl, fun cause hCause => by cases hCause⟩

/- Removing the graph is a command. -/
theorem ensures_drop
    (g : Graph) :
    g.drop.Ensures (fun r xs =>
      Commands (Schema.removalScript g.name) r xs ∧
        ∀ e, Operation.errorOf? r = some e →
          e.isRefusal = false) :=
  ensures_command (fun _ _ hError => by cases hError)

/- Installing the queries is a command. -/
theorem ensures_installQueries
    (g : Graph) :
    g.installQueries.Ensures (fun r xs =>
      Commands (degreeScript g.name g.options.degreeQuery) r xs ∧
        ∀ e, Operation.errorOf? r = some e →
          e.isRefusal = false) := by
  apply ensures_command
  intro output e hError
  unfold judgeInstallation at hError
  split at hError
  · cases hError
    exact ⟨rfl, fun cause hCause => by cases hCause⟩
  · cases hError

end Graph

end GraphClient

------------------------------------------------------------
-- Several Calls
------------------------------------------------------------

namespace GraphClient

namespace Graph

/- Clearing stops with the first failure, and says so. -/
theorem ensures_deleteAll
    (types : List String) :
    (Exact.deleteAll types).Ensures (fun r xs =>
      UpToFailure (types.map .deleteNodes) xs ∧
        (r = false ↔ ∃ x ∈ xs, x.Failed)) := by
  induction types with
  | nil => exact ⟨.nil, by simp⟩
  | cons type types ih =>
      intro (o : Except RemoteError Nat)
      cases o with
      | ok n =>
          apply Conversation.Ensures.mono ih
          rintro r xs ⟨hRest, hFailed⟩
          refine ⟨.next (.deleteNodes type) n hRest, ?_⟩
          simpa [Exchange.Failed] using hFailed
      | error e =>
          refine ⟨.stop (.deleteNodes type) e _, ?_⟩
          simp [Exchange.Failed, Fails]

/- An attempt to count gives the number that is answered. -/
theorem ensures_countNodes
    (type : String) :
    (Conversation.attempt (.countNodes type)).Ensures (fun n xs =>
      xs.map Exchange.call = [.countNodes type] ∧
        Option.getD n 0 = Exchange.total xs) := by
  intro (o : Except RemoteError Nat)
  cases o <;> exact ⟨rfl, rfl⟩

/- An attempt to count gives the number that is answered. -/
theorem ensures_countEdges
    (type : String) :
    (Conversation.attempt (.countEdges type)).Ensures (fun n xs =>
      xs.map Exchange.call = [.countEdges type] ∧
        Option.getD n 0 = Exchange.total xs) := by
  intro (o : Except RemoteError Nat)
  cases o <;> exact ⟨rfl, rfl⟩

/- Counting asks for each type, and adds what is answered. -/
theorem ensures_sumCounts
    {call : String → Call}
    {count : String → Conversation (Option Nat)}
    (hCount :
      ∀ type, (count type).Ensures (fun n xs =>
        xs.map Exchange.call = [call type] ∧
          n.getD 0 = Exchange.total xs))
    (types : List String) :
    (sumCounts count types).Ensures (fun n xs =>
      xs.map Exchange.call = types.map call ∧
        n = Exchange.total xs) := by
  induction types with
  | nil => exact ⟨rfl, rfl⟩
  | cons type types ih =>
      apply Conversation.ensures_andThen
      apply (hCount type).mono
      rintro n xs ⟨hCall, hNumber⟩
      apply Conversation.ensures_map
      apply ih.mono
      rintro rest ys ⟨hCalls, hTotal⟩
      refine ⟨?_, ?_⟩
      · rw [List.map_append, hCall, hCalls]
        rfl
      · rw [Exchange.total_append, hNumber, hTotal]

end Graph

end GraphClient

------------------------------------------------------------
-- Valid Actions
------------------------------------------------------------

namespace GraphClient

namespace Graph

variable {α : Type} {P : Except GraphError α → List Exchange → Prop}

/- A node type that resolves is gone on with. -/
theorem ensures_withNodeType
    {g : Graph}
    {type : TypeRef}
    {next : String → Operation α}
    (hResolves : g.schema.ResolvesNode type)
    (hNext :
      ∀ name, g.schema.resolveNode type = .ok name →
        (next name).Ensures P) :
    (g.withNodeType type next).Ensures P := by
  rcases hResolves with ⟨name, hName⟩
  exact Operation.ensures_require_of_ok hName (hNext name hName)

/- Types of an edge that resolve are gone on with. -/
theorem ensures_withRoute
    {g : Graph}
    {types : RouteRef}
    {next : Route → Operation α}
    (hResolves : g.schema.ResolvesRoute types)
    (hNext :
      ∀ route, g.schema.resolveRoute types = .ok route →
        (next route).Ensures P) :
    (g.withRoute types next).Ensures P := by
  rcases hResolves with ⟨route, hRoute⟩
  exact Operation.ensures_require_of_ok hRoute (hNext route hRoute)

end Graph

namespace Action

/- A result without an error has nothing to report. -/
theorem ensures_silent
    (action : Action)
    {c : Conversation action.Result}
    {P Q : action.Result → List Exchange → Prop}
    (hEnsures :
      c.Ensures (fun r xs => P r xs ∧ action.error? r = none))
    (hPolicy : ∀ r xs, P r xs → Q r xs) :
    c.Ensures (fun r xs => Q r xs ∧ action.Reports r) := by
  apply hEnsures.mono
  rintro r xs ⟨hResult, hNone⟩
  exact ⟨hPolicy r xs hResult, reports_of_none hNone⟩

/- An action that administers may report the error of a call. -/
theorem ensures_administered
    (action : Action)
    (hAdministers : action.administers = true)
    {c : Conversation action.Result}
    {P Q : action.Result → List Exchange → Prop}
    (hEnsures :
      c.Ensures (fun r xs => P r xs ∧
        ∀ e, action.error? r = some e → e.isRefusal = false))
    (hPolicy : ∀ r xs, P r xs → Q r xs) :
    c.Ensures (fun r xs => Q r xs ∧ action.Reports r) := by
  apply hEnsures.mono
  rintro r xs ⟨hResult, hErrors⟩
  exact ⟨hPolicy r xs hResult,
    fun e hError => ⟨hErrors e hError, fun _ _ => hAdministers⟩⟩

/-
  An action that passes validation follows the policy, whatever
  its calls come to.
-/
theorem ensures_of_valid
    {g : Graph}
    {action : Action}
    (hValid : action.Valid g) :
    (action.conversation g).Ensures (fun r xs =>
      action.Follows g r xs ∧ action.Reports r) := by
  cases action with
  | addNode id type bag =>
      rcases hValid with ⟨name, nodeType, hName, hType, hBag⟩
      apply Graph.ensures_withNodeType ⟨name, hName⟩
      intro found hFound
      have hAccepts : g.schema.AcceptsNode type bag :=
        ⟨name, nodeType, hName, hType, hBag⟩
      apply Operation.ensures_require_of_ok (hAccepts.check hFound)
      exact ensures_silent (.addNode id type bag)
        (Operation.ensures_always_attempt _)
        (fun _ _ hWrites => ⟨found, hFound, hWrites⟩)
  | addNodes items type common =>
      apply Graph.ensures_withNodeType hValid.1
      intro name hName
      apply Operation.ensures_require_of_ok
        (Schema.batch_nodes_of_accepts hName hValid.2)
      exact ensures_silent (.addNodes items type common)
        (Operation.ensures_always_attempt _)
        (fun _ _ hWrites => ⟨name, hName, hWrites⟩)
  | addEdge ends types bag =>
      rcases hValid with ⟨route, edgeType, hRoute, hType, hBag⟩
      apply Graph.ensures_withRoute ⟨route, hRoute⟩
      intro found hFound
      have hAccepts : g.schema.AcceptsEdge types bag :=
        ⟨route, edgeType, hRoute, hType, hBag⟩
      apply Operation.ensures_require_of_ok (hAccepts.check hFound)
      exact ensures_silent (.addEdge ends types bag)
        (Operation.ensures_always_attempt _)
        (fun _ _ hWrites => ⟨found, hFound, hWrites⟩)
  | addEdges items types common =>
      apply Graph.ensures_withRoute hValid.1
      intro route hRoute
      apply Operation.ensures_require_of_ok
        (Schema.batch_edges_of_accepts hRoute hValid.2)
      exact ensures_silent (.addEdges items types common)
        (Operation.ensures_always_attempt _)
        (fun _ _ hWrites => ⟨route, hRoute, hWrites⟩)
  | removeNode id type =>
      apply Graph.ensures_withNodeType hValid
      intro name hName
      exact ensures_silent (.removeNode id type)
        (Operation.ensures_fallback (fun _ => ⟨_, rfl⟩)
          (fun _ => rfl))
        (fun _ _ hTests => ⟨name, hName, hTests⟩)
  | hasNode id type =>
      apply Graph.ensures_withNodeType hValid
      intro name hName
      exact ensures_silent (.hasNode id type)
        (Operation.ensures_fallback (fun _ => ⟨_, rfl⟩)
          (fun _ => rfl))
        (fun _ _ hTests => ⟨name, hName, hTests⟩)
  | hasEdge ends types =>
      apply Graph.ensures_withRoute hValid
      intro route hRoute
      exact ensures_silent (.hasEdge ends types)
        (Operation.ensures_fallback (fun _ => ⟨_, rfl⟩)
          (fun _ => rfl))
        (fun _ _ hTests => ⟨route, hRoute, hTests⟩)
  | nodeData id type =>
      apply Graph.ensures_withNodeType hValid
      intro name hName
      apply (Graph.Exact.ensures_nodeData ⟨name, id⟩).mono
      intro r xs hLooksUp
      refine ⟨⟨name, hName, hLooksUp⟩, ?_⟩
      intro e hError
      rw [hLooksUp.error_eq hError]
      exact ⟨rfl, fun cause hCause => by cases hCause⟩
  | edgeData ends types =>
      apply Graph.ensures_withRoute hValid
      intro route hRoute
      apply (Graph.Exact.ensures_edgeData ⟨route, ends⟩).mono
      intro r xs hLooksUp
      refine ⟨⟨route, hRoute, hLooksUp⟩, ?_⟩
      intro e hError
      rw [hLooksUp.error_eq hError]
      exact ⟨rfl, fun cause hCause => by cases hCause⟩
  | nodeEdges id type edgeTypes =>
      rcases hValid with ⟨name, query, hName, hQuery⟩
      apply Operation.ensures_require_of_ok hName
      apply Operation.ensures_require_of_ok hQuery
      exact ensures_silent (.nodeEdges id type edgeTypes)
        (Operation.ensures_fallback (fun _ => ⟨_, rfl⟩)
          (fun _ => rfl))
        (fun _ _ hAsked => ⟨name, query, hName, hQuery, hAsked⟩)
  | degree id type edgeTypes =>
      apply Graph.ensures_withNodeType hValid
      intro name hName
      exact ensures_silent (.degree id type edgeTypes)
        (Operation.ensures_fallback (fun _ => ⟨_, rfl⟩)
          (fun _ => rfl))
        (fun _ _ hAsked => ⟨name, hName, hAsked⟩)
  | runQuery name parameters =>
      intro (o : Except RemoteError Response)
      cases o with
      | ok response =>
          exact ⟨⟨.ok response, rfl,
            fun h => (not_fails_ok response h).elim⟩,
            reports_of_none rfl⟩
      | error e =>
          exact ⟨⟨.error e, rfl, fun _ => rfl⟩, reports_of_none rfl⟩
  | nodes type =>
      exact ensures_silent (.nodes type)
        (Graph.ensures_request hValid)
        (fun _ _ hTable => hTable)
  | neighbors startNodes type =>
      exact ensures_silent (.neighbors startNodes type)
        (Graph.ensures_request hValid)
        (fun _ _ hTable => hTable)
  | edges type =>
      exact ensures_silent (.edges type)
        (Graph.ensures_request hValid)
        (fun _ _ hTable => hTable)
  | findNodes request =>
      exact ensures_silent (.findNodes request)
        (Graph.ensures_tabulate hValid)
        (fun _ _ hTable => hTable)
  | findNeighbors request =>
      exact ensures_silent (.findNeighbors request)
        (Graph.ensures_tabulate hValid)
        (fun _ _ hTable => hTable)
  | findEdges request =>
      exact ensures_silent (.findEdges request)
        (Graph.ensures_tabulate hValid)
        (fun _ _ hTable => hTable)
  | clear =>
      apply (Graph.ensures_deleteAll g.schema.nodes.keys).mono
      intro r xs hClear
      exact ⟨hClear, reports_of_none rfl⟩
  | nodeCount type =>
      apply Operation.ensures_require_of_ok
        (Graph.countedTypes_eq_ok_iff.mpr ⟨rfl, hValid⟩)
      apply Conversation.ensures_map
      apply (Graph.ensures_sumCounts Graph.ensures_countNodes _).mono
      rintro n xs ⟨hCalls, hTotal⟩
      exact ⟨⟨hCalls, congrArg Except.ok hTotal⟩,
        reports_of_none rfl⟩
  | edgeCount type =>
      apply Operation.ensures_require_of_ok
        (Graph.countedTypes_eq_ok_iff.mpr ⟨rfl, hValid⟩)
      apply Conversation.ensures_map
      apply (Graph.ensures_sumCounts Graph.ensures_countEdges _).mono
      rintro n xs ⟨hCalls, hTotal⟩
      exact ⟨⟨hCalls, congrArg Except.ok hTotal⟩,
        reports_of_none rfl⟩
  | createSchema dropsExisting =>
      cases dropsExisting with
      | false =>
          exact ensures_administered (.createSchema false) rfl
            g.ensures_createTypes
            (fun _ xs hCommands => ⟨[], xs, rfl, rfl, hCommands⟩)
      | true =>
          apply Conversation.ensures_andThen
          apply g.ensures_drop.mono
          rintro _ before ⟨⟨o, rfl, _⟩, _⟩
          exact ensures_administered (.createSchema true) rfl
            g.ensures_createTypes
            (fun _ after hCommands =>
              ⟨_, after, rfl, rfl, hCommands⟩)
  | drop =>
      exact ensures_administered .drop rfl g.ensures_drop
        (fun _ _ hCommands => hCommands)
  | installQueries =>
      exact ensures_administered .installQueries rfl
        g.ensures_installQueries
        (fun _ _ hCommands => hCommands)

/-
  Whatever a service answers, an action that passes validation
  follows the policy, and no action reports the error of a call
  unless it administers.
-/
theorem failure_policy
    {σ : Type}
    (g : Graph)
    (service : Service σ)
    (s : σ)
    (action : Action) :
    (action.Valid g →
        action.Follows g ((action.conversation g).run service s).1
          ((action.conversation g).exchanges service s)) ∧
      ∀ e,
        action.error? ((action.conversation g).run service s).1 =
          some (.remote e) →
        action.administers = true := by
  by_cases hValid : action.Valid g
  · rcases (ensures_of_valid hValid).run service s with
      ⟨hFollows, hReports⟩
    exact ⟨fun _ => hFollows,
      fun e hError => (hReports _ hError).2 e rfl⟩
  · rcases (refused_of_not_valid hValid).run service s with
      ⟨⟨e, hRefused, hRefusal⟩, _⟩
    refine ⟨fun h => (hValid h).elim, ?_⟩
    intro cause hError
    rw [hRefused] at hError
    cases hError
    cases hRefusal

/- A node that is not found is an error; a count that fails is 0. -/
theorem failure_policy_acquaintance :
    (((nodeData "ann" none).conversation .acquaintance).run
          Store.service
          (Store.empty.fail .retrieveNode (.notFound "ann"))).1 =
        .error (.noSuchNode ⟨"Person", "ann"⟩) ∧
      (((nodeCount none).conversation .acquaintance).run
          Store.service
          (Store.empty.fail .countNodes .cancelled)).1 =
        .ok 0 := by
  have hMissing :=
    (failure_policy .acquaintance Store.service
      (Store.empty.fail .retrieveNode (.notFound "ann"))
      (.nodeData "ann" none)).1 ⟨"Person", rfl⟩
  have hUncounted :=
    (failure_policy .acquaintance Store.service
      (Store.empty.fail .countNodes .cancelled)
      (.nodeCount none)).1 (fun _ hName => by cases hName)
  rcases hMissing with ⟨name, hName, o, hExchange, hErrors, _⟩
  cases hName
  cases hExchange
  exact ⟨(hErrors _).mpr ⟨rfl, "ann", rfl⟩, hUncounted.2⟩

end Action

end GraphClient
