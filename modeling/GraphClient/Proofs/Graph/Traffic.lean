import GraphClient.Proofs.Graph.Outcomes
/-
  Validation comes before any traffic.

  Key definitions include:
    * `GraphClient.Action.Sends`
    * `GraphClient.Graph.creationCalls`

  Key theorems include:
    * `GraphClient.Action.refused_iff_not_valid`
    * `GraphClient.Graph.calls_create`
    * `GraphClient.Action.validation_before_traffic`

  An action is either refused, and then the remote graph never
  hears of it, or it makes all of its calls: one for most
  actions, and one for each type where an action goes through
  types.
-/

------------------------------------------------------------
-- Calls of Actions
------------------------------------------------------------

namespace GraphClient

/- The calls that create a graph with all of its types. -/
def Graph.creationCalls
    (g : Graph)
    (dropsExisting : Bool) :
    List Call :=
  let creation := .runCommand g.schema.creationScript
  if dropsExisting then
    [.runCommand (Schema.removalScript g.name), creation]
  else
    [creation]

/-
  The calls that create the graph of a configuration: those that
  create its types, and one that installs its queries if that
  has ended well.
-/
def Graph.callsOfCreate
    (config : Config) :
    Except GraphError Unit → List Call
| .ok _ =>
    (ofConfig config).creationCalls config.options.dropsExisting ++
      [.runCommand (degreeScript (ofConfig config).name
        config.options.degreeQuery)]
| .error _ =>
    (ofConfig config).creationCalls config.options.dropsExisting

namespace Action

/-
  What an action that is not refused sends: a single call,
  unless it goes through types or has a graph to remove first.
-/
def Sends
    (g : Graph) :
    Action → List Exchange → Prop
| .clear, xs =>
    UpToFailure (g.schema.nodes.keys.map .deleteNodes) xs
| .nodeCount type, xs =>
    xs.map Exchange.call =
      (type.counted g.schema.nodes.keys).map .countNodes
| .edgeCount type, xs =>
    xs.map Exchange.call =
      (type.counted g.schema.edges.keys).map .countEdges
| .createSchema dropsExisting, xs =>
    xs.map Exchange.call = g.creationCalls dropsExisting
| _, xs => ∃ x, xs = [x]

end Action

/- A call that is asked is a single exchange. -/
theorem Asked.single
    {call : Call}
    {P : call.Outcome → Prop}
    {xs : List Exchange}
    (hAsked : Asked call P xs) :
    ∃ x, xs = [x] := by
  rcases hAsked with ⟨o, hExchange, _⟩
  exact ⟨⟨call, o⟩, hExchange⟩

/- The call that is asked is the only one. -/
theorem Asked.map_call
    {call : Call}
    {P : call.Outcome → Prop}
    {xs : List Exchange}
    (hAsked : Asked call P xs) :
    xs.map Exchange.call = [call] := by
  rcases hAsked with ⟨o, rfl, _⟩
  rfl

/- A query for a table is a single exchange. -/
theorem Tabulates.single
    {query : Except CompileError Query}
    {r : Except GraphError Table}
    {xs : List Exchange}
    (hTabulates : Tabulates query r xs) :
    ∃ x, xs = [x] := by
  rcases hTabulates with ⟨found, _, hAsked⟩
  exact hAsked.single

namespace Action

/- What follows the policy sends what is to be sent. -/
theorem Follows.sends
    {g : Graph}
    {action : Action}
    {r : action.Result}
    {xs : List Exchange}
    (hFollows : action.Follows g r xs) :
    action.Sends g xs := by
  cases action with
  | clear => exact hFollows.1
  | nodeCount type => exact hFollows.1
  | edgeCount type => exact hFollows.1
  | createSchema dropsExisting =>
      rcases hFollows with ⟨before, after, rfl, hBefore, hAfter⟩
      change List.map _ _ = _
      rw [List.map_append, hBefore, hAfter.map_call]
      cases dropsExisting <;> rfl
  | addNode id type bag =>
      rcases hFollows with ⟨name, _, hWrites⟩
      exact Asked.single hWrites
  | addNodes items type common =>
      rcases hFollows with ⟨name, _, hWrites⟩
      exact Asked.single hWrites
  | addEdge ends types bag =>
      rcases hFollows with ⟨route, _, hWrites⟩
      exact Asked.single hWrites
  | addEdges items types common =>
      rcases hFollows with ⟨route, _, hWrites⟩
      exact Asked.single hWrites
  | removeNode id type =>
      rcases hFollows with ⟨name, _, hTests⟩
      exact Asked.single hTests
  | hasNode id type =>
      rcases hFollows with ⟨name, _, hTests⟩
      exact Asked.single hTests
  | hasEdge ends types =>
      rcases hFollows with ⟨route, _, hTests⟩
      exact Asked.single hTests
  | nodeData id type =>
      rcases hFollows with ⟨name, _, hLooksUp⟩
      exact Asked.single hLooksUp
  | edgeData ends types =>
      rcases hFollows with ⟨route, _, hLooksUp⟩
      exact Asked.single hLooksUp
  | nodeEdges id type edgeTypes =>
      rcases hFollows with ⟨name, query, _, _, hAsked⟩
      exact hAsked.single
  | degree id type edgeTypes =>
      rcases hFollows with ⟨name, _, hAsked⟩
      exact hAsked.single
  | runQuery name parameters => exact Asked.single hFollows
  | nodes type =>
      rcases hFollows with ⟨request, _, hTabulates⟩
      exact hTabulates.single
  | neighbors startNodes type =>
      rcases hFollows with ⟨request, _, hTabulates⟩
      exact hTabulates.single
  | edges type =>
      rcases hFollows with ⟨request, _, hTabulates⟩
      exact hTabulates.single
  | findNodes request => exact Tabulates.single hFollows
  | findNeighbors request => exact Tabulates.single hFollows
  | findEdges request => exact Tabulates.single hFollows
  | drop => exact Asked.single hFollows
  | installQueries => exact Asked.single hFollows

end Action

end GraphClient

------------------------------------------------------------
-- Refused or Sent
------------------------------------------------------------

namespace GraphClient

namespace Action

variable {σ : Type}

/- Exactly the actions that do not pass validation are refused. -/
theorem refused_iff_not_valid
    (g : Graph)
    (service : Service σ)
    (s : σ)
    (action : Action) :
    action.Refused ((action.conversation g).run service s).1 ↔
      ¬ action.Valid g := by
  constructor
  · rintro ⟨e, hError, hRefusal⟩ hValid
    have hReports := ((ensures_of_valid hValid).run service s).2
    rw [(hReports e hError).1] at hRefusal
    cases hRefusal
  · intro hInvalid
    exact ((refused_of_not_valid hInvalid).run service s).1

/- What is not valid makes no call, and leaves the state alone. -/
theorem silent_of_not_valid
    {g : Graph}
    {action : Action}
    (hInvalid : ¬ action.Valid g)
    (service : Service σ)
    (s : σ) :
    (action.conversation g).calls service s = [] ∧
      ((action.conversation g).run service s).2 = s := by
  have hNone := ((refused_of_not_valid hInvalid).run service s).2
  refine ⟨?_, Conversation.run_of_exchanges_eq_nil hNone⟩
  rw [Conversation.calls_eq_map_exchanges, hNone]
  rfl

/- A batch of nodes with an item that does not fit is not valid. -/
theorem not_valid_addNodes
    {g : Graph}
    {items : List (String × Bag)}
    {type : TypeRef}
    {common : Bag}
    {item : String × Bag}
    (hItem : item ∈ items)
    (hUnfit : ¬ g.schema.AcceptsNode type (item.2.override common)) :
    ¬ (addNodes items type common).Valid g :=
  fun hValid => hUnfit (hValid.2 item hItem)

/- A batch of edges with an item that does not fit is not valid. -/
theorem not_valid_addEdges
    {g : Graph}
    {items : List (Ends × Bag)}
    {types : RouteRef}
    {common : Bag}
    {item : Ends × Bag}
    (hItem : item ∈ items)
    (hUnfit : ¬ g.schema.AcceptsEdge types (item.2.override common)) :
    ¬ (addEdges items types common).Valid g :=
  fun hValid => hUnfit (hValid.2 item hItem)

end Action

end GraphClient

------------------------------------------------------------
-- Creation
------------------------------------------------------------

namespace GraphClient

/- The calls of what follows a result come after those before. -/
theorem Operation.calls_bind
    {σ α β : Type}
    (first : Operation α)
    (next : α → Operation β)
    (service : Service σ)
    (s : σ) :
    (first.bind next).calls service s =
      first.calls service s ++
        match (first.run service s).1 with
        | .ok a => (next a).calls service (first.run service s).2
        | .error _ => [] := by
  unfold bind
  rw [Conversation.calls_andThen]
  cases (first.run service s).1 <;> rfl

/- Giving back something else makes no calls. -/
theorem Operation.calls_bind_succeed
    {σ α β : Type}
    (first : Operation α)
    (b : β)
    (service : Service σ)
    (s : σ) :
    (first.bind (fun _ => succeed b)).calls service s =
      first.calls service s := by
  rw [calls_bind]
  cases (first.run service s).1 <;> exact List.append_nil _

namespace Graph

variable {σ : Type}

/- Whatever a command reports, it is no refusal. -/
def NeverRefuses
    {α : Type}
    (c : Operation α) :
    Prop :=
  c.Ensures (fun r _ => ∀ e, r = .error e → e.isRefusal = false)

/- Two operations that never refuse do not do so in sequence. -/
theorem NeverRefuses.bind
    {α β : Type}
    {first : Operation α}
    {next : α → Operation β}
    (hFirst : NeverRefuses first)
    (hNext : ∀ a, NeverRefuses (next a)) :
    NeverRefuses (first.bind next) := by
  apply Conversation.ensures_andThen
  apply hFirst.mono
  intro r xs hReports
  cases r with
  | ok a => exact (hNext a).mono (fun r ys hReports => hReports)
  | error e =>
      rintro found hFound
      cases hFound
      exact hReports e rfl

/- Creating the types of a graph never refuses. -/
theorem neverRefuses_createSchema
    (g : Graph)
    (dropsExisting : Bool) :
    NeverRefuses (g.createSchema dropsExisting) := by
  have hValid : (Action.createSchema dropsExisting).Valid g := trivial
  apply (Action.ensures_of_valid hValid).mono
  rintro r xs ⟨_, hReports⟩ e rfl
  exact (hReports e rfl).1

/- Installing the queries of a graph never refuses. -/
theorem neverRefuses_installQueries
    (g : Graph) :
    NeverRefuses g.installQueries := by
  have hValid : Action.installQueries.Valid g := trivial
  apply (Action.ensures_of_valid hValid).mono
  rintro r xs ⟨_, hReports⟩ e rfl
  exact (hReports e rfl).1

/- Creating a graph never refuses. -/
theorem neverRefuses_create
    (config : Config) :
    NeverRefuses (create config) := by
  apply (neverRefuses_createSchema _ _).bind
  intro u
  apply (neverRefuses_installQueries _).bind
  intro u e hError
  cases hError

/- The calls that create the types of a graph. -/
theorem calls_createSchema
    (g : Graph)
    (dropsExisting : Bool)
    (service : Service σ)
    (s : σ) :
    (g.createSchema dropsExisting).calls service s =
      g.creationCalls dropsExisting := by
  have hValid : (Action.createSchema dropsExisting).Valid g := trivial
  rw [Conversation.calls_eq_map_exchanges]
  exact ((Action.ensures_of_valid hValid).run service s).1.sends

/- The call that installs the queries of a graph. -/
theorem calls_installQueries
    (g : Graph)
    (service : Service σ)
    (s : σ) :
    g.installQueries.calls service s =
      [.runCommand (degreeScript g.name g.options.degreeQuery)] := by
  have hValid : Action.installQueries.Valid g := trivial
  have hFollows := ((Action.ensures_of_valid hValid).run service s).1
  rw [Conversation.calls_eq_map_exchanges]
  exact Asked.map_call hFollows

/- Creating a graph makes the calls for it. -/
theorem calls_create
    (config : Config)
    (service : Service σ)
    (s : σ) :
    (create config).calls service s =
      callsOfCreate config
        (((ofConfig config).createSchema
          config.options.dropsExisting).run service s).1 := by
  have hOptions : (ofConfig config).options = config.options := rfl
  unfold create
  rw [Operation.calls_bind, calls_createSchema, hOptions]
  cases (((ofConfig config).createSchema
      config.options.dropsExisting).run service s).1 with
  | error e => exact List.append_nil _
  | ok u =>
      refine congrArg _ ?_
      exact (Operation.calls_bind_succeed _ _ service _).trans
        (calls_installQueries _ service _)

end Graph

end GraphClient

------------------------------------------------------------
-- Main Result
------------------------------------------------------------

namespace GraphClient

namespace Action

variable {σ : Type}

/-
  Whatever a service answers: an action that is refused makes no
  call and leaves the remote state as it is, and every other
  makes the calls that are its own.  A batch with an item that
  does not fit is refused wherever the item stands.  Creating a
  graph from a configuration is never refused.
-/
theorem validation_before_traffic
    (g : Graph)
    (service : Service σ)
    (s : σ) :
    (∀ action : Action,
        (action.Refused ((action.conversation g).run service s).1 →
          (action.conversation g).calls service s = [] ∧
            ((action.conversation g).run service s).2 = s) ∧
        (¬ action.Refused
            ((action.conversation g).run service s).1 →
          action.Sends g
            ((action.conversation g).exchanges service s))) ∧
      (∀ items type common,
        (∃ item ∈ items,
          ¬ g.schema.AcceptsNode type (item.2.override common)) →
        (addNodes items type common).Refused
            ((g.addNodes items type common).run service s).1 ∧
          (g.addNodes items type common).calls service s = []) ∧
      (∀ items types common,
        (∃ item ∈ items,
          ¬ g.schema.AcceptsEdge types (item.2.override common)) →
        (addEdges items types common).Refused
            ((g.addEdges items types common).run service s).1 ∧
          (g.addEdges items types common).calls service s = []) ∧
      ∀ config,
        (∀ e, ((Graph.create config).run service s).1 = .error e →
          e.isRefusal = false) ∧
        (Graph.create config).calls service s =
          Graph.callsOfCreate config
            (((Graph.ofConfig config).createSchema
              config.options.dropsExisting).run service s).1 := by
  refine ⟨?_, ?_, ?_, ?_⟩
  · intro action
    refine ⟨?_, ?_⟩
    · intro hRefused
      exact silent_of_not_valid
        ((refused_iff_not_valid g service s action).mp hRefused)
        service s
    · intro hKept
      have hValid : action.Valid g := by
        by_contra hInvalid
        exact hKept
          ((refused_iff_not_valid g service s action).mpr hInvalid)
      exact ((ensures_of_valid hValid).run service s).1.sends
  · rintro items type common ⟨item, hItem, hUnfit⟩
    have hInvalid := not_valid_addNodes hItem hUnfit
    exact ⟨(refused_iff_not_valid g service s _).mpr hInvalid,
      (silent_of_not_valid hInvalid service s).1⟩
  · rintro items types common ⟨item, hItem, hUnfit⟩
    have hInvalid := not_valid_addEdges hItem hUnfit
    exact ⟨(refused_iff_not_valid g service s _).mpr hInvalid,
      (silent_of_not_valid hInvalid service s).1⟩
  · intro config
    exact ⟨(Graph.neverRefuses_create config).run service s,
      Graph.calls_create config service s⟩

/-
  A batch of persons with one whose age is a text is refused as
  a whole; without that person it is one call.
-/
theorem validation_before_traffic_acquaintance :
    (Graph.acquaintance.addNodes
          [("ann", .ofList [("age", .int 30)]),
            ("bob", .ofList [("age", .string "old")])]
          none .empty).calls Store.service .empty = [] ∧
      ∃ x,
        (Graph.acquaintance.addNodes
            [("ann", .ofList [("age", .int 30)])]
            none .empty).exchanges Store.service .empty = [x] := by
  have hTraffic :=
    validation_before_traffic .acquaintance Store.service .empty
  refine ⟨?_, ?_⟩
  · apply (hTraffic.2.1 _ _ _ ⟨_, List.mem_cons_of_mem _
      (List.mem_singleton_self _), ?_⟩).2
    rintro ⟨name, nodeType, hName, hType, hBag⟩
    cases hName
    cases hType
    cases hBag
  · apply (hTraffic.1 (.addNodes _ none .empty)).2
    rintro ⟨e, hError, _⟩
    cases hError

end Action

end GraphClient
