import GraphClient.Proofs.Graph.Traffic
import GraphClient.Proofs.OrderedMap
import GraphClient.Proofs.Schema.Routes
/-
  What is stored fits the schema.

  Key definitions include:
    * `GraphClient.Schema.FitsNode`
    * `GraphClient.Schema.FitsEdge`
    * `GraphClient.Call.Fits`
    * `GraphClient.Store.Fits`
    * `GraphClient.Store.Reachable`

  Key theorems include:
    * `GraphClient.Action.asks_fits`
    * `GraphClient.Store.Fits.answer`
    * `GraphClient.Store.fits_of_reachable`
    * `GraphClient.Store.reachable_fits_schema`

  Whatever it is answered, a client sends only what fits its
  schema, and a store that is sent nothing else holds nothing
  else.  Going through the types of the schema then reaches all
  nodes and edges.
-/

------------------------------------------------------------
-- What Fits
------------------------------------------------------------

namespace GraphClient

namespace Schema

/- A bag is valid for a node type of the schema. -/
def FitsNode
    (schema : Schema)
    (type : String)
    (bag : Bag) :
    Prop :=
  ∃ nodeType,
    schema.nodes.get? type = some nodeType ∧
      nodeType.checkBag type bag = .ok ()

/-
  A bag is valid for an edge type of the schema, and the ends of
  the edge are node types.
-/
def FitsEdge
    (schema : Schema)
    (route : Route)
    (bag : Bag) :
    Prop :=
  (∃ edgeType,
      schema.edges.get? route.edge = some edgeType ∧
        edgeType.checkBag route.edge bag = .ok ()) ∧
    route.source ∈ schema.nodes.keys ∧
      route.target ∈ schema.nodes.keys

/- What fits a node type is of a type of the schema. -/
theorem FitsNode.mem_keys
    {schema : Schema}
    {type : String}
    {bag : Bag}
    (hFits : schema.FitsNode type bag) :
    type ∈ schema.nodes.keys := by
  rcases hFits with ⟨nodeType, hType, _⟩
  rw [← schema.nodes.contains_iff]
  exact Option.isSome_iff_exists.mpr ⟨nodeType, hType⟩

/- What fits an edge type is of a type of the schema. -/
theorem FitsEdge.mem_keys
    {schema : Schema}
    {route : Route}
    {bag : Bag}
    (hFits : schema.FitsEdge route bag) :
    route.edge ∈ schema.edges.keys := by
  rcases hFits with ⟨⟨edgeType, hType, _⟩, _⟩
  rw [← schema.edges.contains_iff]
  exact Option.isSome_iff_exists.mpr ⟨edgeType, hType⟩

end Schema

/- The nodes and edges that a call writes fit a schema. -/
def Call.Fits
    (schema : Schema) :
    Call → Prop
| .upsertNode node bag => schema.FitsNode node.type bag
| .upsertNodes type nodes =>
    ∀ item ∈ nodes, schema.FitsNode type item.2
| .upsertEdge link bag => schema.FitsEdge link.route bag
| .upsertEdges route edges =>
    ∀ item ∈ edges, schema.FitsEdge route item.2
| _ => True

namespace Store

/-
  A store fits a schema when all of its nodes and edges do; it
  holds a node once.
-/
structure Fits (schema : Schema) (s : Store) : Prop where
  nodes :
    ∀ entry ∈ s.nodes, schema.FitsNode entry.1.type entry.2
  edges :
    ∀ entry ∈ s.edges, schema.FitsEdge entry.1.route entry.2
  distinct : (s.nodes.map Prod.fst).Nodup

/-
  The stores that clients of a schema can leave behind, whatever
  they do, and whichever verbs fail meanwhile.
-/
inductive Reachable (schema : Schema) : Store → Prop
| empty : Reachable schema empty
| act
    {s : Store}
    (hReachable : Reachable schema s)
    (g : Graph)
    (hSchema : g.schema = schema)
    (action : Action) :
    Reachable schema ((action.conversation g).run service s).2
| create
    {s : Store}
    (hReachable : Reachable schema s)
    (config : Config) :
    Reachable schema ((Graph.create config).run service s).2
| fail
    {s : Store}
    (hReachable : Reachable schema s)
    (verb : Verb)
    (e : RemoteError) :
    Reachable schema (s.fail verb e)
| recover
    {s : Store}
    (hReachable : Reachable schema s)
    (verb : Verb) :
    Reachable schema (s.recover verb)
| pushResponse
    {s : Store}
    (hReachable : Reachable schema s)
    (response : Response) :
    Reachable schema (s.pushResponse response)
| pushOutput
    {s : Store}
    (hReachable : Reachable schema s)
    (output : String) :
    Reachable schema (s.pushOutput output)

end Store

end GraphClient

------------------------------------------------------------
-- What Is Sent
------------------------------------------------------------

namespace GraphClient

/- What holds of all calls holds of them when it is weakened. -/
theorem Conversation.Asks.mono
    {α : Type}
    {p q : Call → Prop}
    {c : Conversation α}
    (hAsks : c.Asks p)
    (hWeaker : ∀ call, p call → q call) :
    c.Asks q := by
  induction c with
  | done a => trivial
  | ask call next ih =>
      exact ⟨hWeaker call hAsks.1, fun o => ih o (hAsks.2 o)⟩

/- A call that writes nothing fits every schema. -/
theorem Call.fits_of_reads
    (schema : Schema)
    {call : Call}
    (hReads : call.writes = false) :
    call.Fits schema := by
  cases call with
  | upsertNode node bag => cases hReads
  | upsertNodes type nodes => cases hReads
  | upsertEdge link bag => cases hReads
  | upsertEdges route edges => cases hReads
  | _ => trivial

namespace Schema

variable {schema : Schema}

/- A resolved route with checked values fits. -/
theorem fitsEdge_of_checkEdge
    {types : RouteRef}
    {route : Route}
    {bag : Bag}
    (hResolve : schema.resolveRoute types = .ok route)
    (hCheck : Batch.checkEdge schema route.edge bag = .ok ()) :
    schema.FitsEdge route bag := by
  rcases Checks.bind_eq_ok_iff.mp hCheck with ⟨edgeType, hEdge, hBag⟩
  exact ⟨⟨edgeType, edge_eq_ok_iff.mp hEdge, hBag⟩,
    ends_mem_of_resolveRoute hResolve⟩

end Schema

namespace Action

/- Whatever it is answered, an action sends only what fits. -/
theorem asks_fits
    (g : Graph)
    (action : Action) :
    (action.conversation g).Asks (Call.Fits g.schema) := by
  by_cases hReads : action.writes = false
  · exact (action.reads_only g hReads).mono
      (fun call => Call.fits_of_reads g.schema)
  · cases action with
    | addNode id type bag =>
        change (g.addNode id type bag).Asks _
        rcases g.addNode_cases id type bag with
          ⟨e, hRefused⟩ | ⟨name, nodeType, _, hType, hBag, hAttempt⟩
        · rw [hRefused]
          trivial
        · rw [hAttempt]
          exact Conversation.asks_map
            (Conversation.asks_attempt ⟨nodeType, hType, hBag⟩)
    | addNodes items type common =>
        change (g.addNodes items type common).Asks _
        rcases g.addNodes_cases items type common with
          ⟨e, hRefused⟩ | ⟨name, nodeType, _, hType, hBags, hAttempt⟩
        · rw [hRefused]
          trivial
        · rw [hAttempt]
          exact Conversation.asks_map (Conversation.asks_attempt
            (fun item hItem => ⟨nodeType, hType, hBags item hItem⟩))
    | addEdge ends types bag =>
        change (g.addEdge ends types bag).Asks _
        rcases g.addEdge_cases ends types bag with
          ⟨e, hRefused⟩ | ⟨route, hResolve, hCheck, hAttempt⟩
        · rw [hRefused]
          trivial
        · rw [hAttempt]
          exact Conversation.asks_map (Conversation.asks_attempt
            (Schema.fitsEdge_of_checkEdge hResolve hCheck))
    | addEdges items types common =>
        change (g.addEdges items types common).Asks _
        rcases g.addEdges_cases items types common with
          ⟨e, hRefused⟩ | ⟨route, hResolve, hChecks, hAttempt⟩
        · rw [hRefused]
          trivial
        · rw [hAttempt]
          exact Conversation.asks_map (Conversation.asks_attempt
            (fun item hItem =>
              Schema.fitsEdge_of_checkEdge hResolve
                (hChecks item hItem)))
    | removeNode id type =>
        apply Operation.asks_require
        intro name _
        refine Conversation.asks_map ⟨trivial, ?_⟩
        intro (o : Except RemoteError Nat)
        cases o <;> trivial
    | clear =>
        change (Graph.Exact.deleteAll g.schema.nodes.keys).Asks _
        induction g.schema.nodes.keys with
        | nil => trivial
        | cons type types ih =>
            refine ⟨trivial, ?_⟩
            intro (o : Except RemoteError Nat)
            cases o with
            | ok n => exact ih
            | error e => trivial
    | _ => exact (hReads rfl).elim

end Action

/- What follows a result adds its own calls only. -/
theorem Operation.asks_bind
    {α β : Type}
    {p : Call → Prop}
    {first : Operation α}
    {next : α → Operation β}
    (hFirst : first.Asks p)
    (hNext : ∀ a, (next a).Asks p) :
    (first.bind next).Asks p := by
  apply Conversation.asks_andThen hFirst
  intro r
  cases r with
  | ok a => exact hNext a
  | error e => trivial

/- Creating a graph sends only what fits every schema. -/
theorem Graph.asks_fits_create
    (schema : Schema)
    (config : Config) :
    (create config).Asks (Call.Fits schema) := by
  have hCreate (dropsExisting : Bool) :
      ((ofConfig config).createSchema dropsExisting).Asks
        (fun call => call.writes = false) :=
    (Action.createSchema dropsExisting).reads_only _ rfl
  have hInstall :
      (ofConfig config).installQueries.Asks
        (fun call => call.writes = false) :=
    Action.installQueries.reads_only _ rfl
  have hReads :
      (create config).Asks (fun call => call.writes = false) := by
    apply Operation.asks_bind (hCreate _)
    intro u
    exact Operation.asks_bind hInstall (fun _ => trivial)
  exact hReads.mono (fun call => Call.fits_of_reads schema)

end GraphClient

------------------------------------------------------------
-- What Is Kept
------------------------------------------------------------

namespace GraphClient

namespace Store

variable {schema : Schema} {s : Store}

/- An empty store fits every schema. -/
theorem fits_empty
    (schema : Schema) :
    empty.Fits schema where
  nodes := fun _ hMem => by cases hMem
  edges := fun _ hMem => by cases hMem
  distinct := List.nodup_nil

/- Whether a store fits depends on its nodes and edges alone. -/
theorem Fits.congr
    (hFits : s.Fits schema)
    {t : Store}
    (hNodes : t.nodes = s.nodes)
    (hEdges : t.edges = s.edges) :
    t.Fits schema where
  nodes := by rw [hNodes]; exact hFits.nodes
  edges := by rw [hEdges]; exact hFits.edges
  distinct := by rw [hNodes]; exact hFits.distinct

/- Removing nodes leaves what fits. -/
theorem Fits.dropNodes
    (hFits : s.Fits schema)
    (p : NodeRef → Bool) :
    (s.dropNodes p).Fits schema where
  nodes := fun entry hMem =>
    hFits.nodes entry (List.mem_filter.mp hMem).1
  edges := hFits.edges
  distinct :=
    hFits.distinct.sublist (List.filter_sublist.map Prod.fst)

/- Writing a node that fits keeps what fits. -/
theorem Fits.putNode
    (hFits : s.Fits schema)
    (node : NodeRef)
    {bag : Bag}
    (hNode : schema.FitsNode node.type bag) :
    (s.putNode node bag).Fits schema where
  nodes := by
    have hRest := hFits.dropNodes (fun other => other = node)
    exact List.forall_mem_cons.mpr ⟨hNode, hRest.nodes⟩
  edges := hFits.edges
  distinct := by
    have hRest := hFits.dropNodes (fun other => other = node)
    apply List.nodup_cons.mpr ⟨?_, hRest.distinct⟩
    intro hMem
    rcases List.mem_map.mp hMem with ⟨entry, hEntry, hSame⟩
    have hOther := (List.mem_filter.mp hEntry).2
    simp [hSame] at hOther

/- Writing an edge that fits keeps what fits. -/
theorem Fits.putEdge
    (hFits : s.Fits schema)
    (link : Link)
    {bag : Bag}
    (hEdge : schema.FitsEdge link.route bag) :
    (s.putEdge link bag).Fits schema where
  nodes := hFits.nodes
  edges := by
    intro entry hMem
    rcases List.mem_append.mp hMem with hBefore | hNew
    · exact hFits.edges entry hBefore
    · rw [List.mem_singleton.mp hNew]
      exact hEdge
  distinct := hFits.distinct

/- Writing a batch of nodes that fit keeps what fits. -/
theorem Fits.putNodes
    (hFits : s.Fits schema)
    {type : String}
    {items : List (String × Bag)}
    (hItems : ∀ item ∈ items, schema.FitsNode type item.2) :
    (items.foldl (fun s node => s.putNode ⟨type, node.1⟩ node.2)
      s).Fits schema := by
  induction items generalizing s with
  | nil => exact hFits
  | cons item items ih =>
      rcases List.forall_mem_cons.mp hItems with ⟨hItem, hRest⟩
      exact ih (hFits.putNode ⟨type, item.1⟩ hItem) hRest

/- Writing a batch of edges that fit keeps what fits. -/
theorem Fits.putEdges
    (hFits : s.Fits schema)
    {route : Route}
    {items : List (Ends × Bag)}
    (hItems : ∀ item ∈ items, schema.FitsEdge route item.2) :
    (items.foldl (fun s edge => s.putEdge ⟨route, edge.1⟩ edge.2)
      s).Fits schema := by
  induction items generalizing s with
  | nil => exact hFits
  | cons item items ih =>
      rcases List.forall_mem_cons.mp hItems with ⟨hItem, hRest⟩
      exact ih (hFits.putEdge ⟨route, item.1⟩ hItem) hRest

/- A call that fits keeps what fits, whether it works or fails. -/
theorem Fits.answer
    (hFits : s.Fits schema)
    {call : Call}
    (hCall : call.Fits schema) :
    (service.answer call s).2.Fits schema := by
  by_cases hReads : call.writes = false
  · have hSame := sameContents_answer s hReads
    exact hFits.congr hSame.nodes hSame.edges
  · cases hVerb : s.failure? call.verb with
    | some e =>
        rw [answer_of_failure _ hVerb]
        exact hFits
    | none =>
        rw [answer_of_working _ hVerb]
        cases call with
        | upsertNode node bag => exact hFits.putNode node hCall
        | upsertNodes type nodes => exact hFits.putNodes hCall
        | upsertEdge link bag => exact hFits.putEdge link hCall
        | upsertEdges route edges => exact hFits.putEdges hCall
        | deleteNode node =>
            exact hFits.dropNodes (fun other => other = node)
        | deleteNodes type =>
            exact hFits.dropNodes (fun node => node.type = type)
        | _ => exact (hReads rfl).elim

/- A conversation that sends what fits keeps what fits. -/
theorem Fits.run
    (hFits : s.Fits schema)
    {α : Type}
    {c : Conversation α}
    (hAsks : c.Asks (Call.Fits schema)) :
    (c.run service s).2.Fits schema := by
  apply Conversation.run_keeps service _ hAsks hFits
  intro call t hCall hKept
  exact hKept.answer hCall

/- Every store that can be left behind fits the schema. -/
theorem fits_of_reachable
    (hReachable : Reachable schema s) :
    s.Fits schema := by
  induction hReachable with
  | empty => exact fits_empty schema
  | act _ g hSchema action ih =>
      apply ih.run
      rw [← hSchema]
      exact action.asks_fits g
  | create _ config ih =>
      exact ih.run (Graph.asks_fits_create schema config)
  | fail _ verb e ih => exact ih.congr rfl rfl
  | recover _ verb ih => exact ih.congr rfl rfl
  | pushResponse _ response ih => exact ih.congr rfl rfl
  | pushOutput _ output ih => exact ih.congr rfl rfl

end Store

end GraphClient

------------------------------------------------------------
-- Going through All Types
------------------------------------------------------------

namespace GraphClient

/-
  What is counted under one key, and under others, is what is
  counted under all of them.
-/
theorem countP_mem_cons
    {α : Type}
    (key : α → String)
    {name : String}
    {names : List String}
    (hNew : name ∉ names)
    (xs : List α) :
    xs.countP (fun x => decide (key x ∈ name :: names)) =
      xs.countP (fun x => decide (key x = name)) +
        xs.countP (fun x => decide (key x ∈ names)) := by
  induction xs with
  | nil => rfl
  | cons x xs ih =>
      simp only [List.countP_cons, ih]
      by_cases hName : key x = name
      · simp [hName, hNew]
        omega
      · simp [hName]
        omega

namespace Store

variable {schema : Schema} {s : Store}

/-
  When counting works, counts over distinct types add up to the
  number of things of one of these types.
-/
theorem run_sumCounts
    {α : Type}
    {s : Store}
    (key : α → String)
    (xs : List α)
    {count : String → Conversation (Option Nat)}
    (hCount :
      ∀ type, (count type).run service s =
        (some (xs.countP (fun x => decide (key x = type))), s))
    {types : List String}
    (hDistinct : types.Nodup) :
    (Graph.sumCounts count types).run service s =
      (xs.countP (fun x => decide (key x ∈ types)), s) := by
  induction types with
  | nil => simp [Graph.sumCounts, Conversation.run]
  | cons type types ih =>
      rcases List.nodup_cons.mp hDistinct with ⟨hNew, hRest⟩
      rw [countP_mem_cons key hNew, Graph.sumCounts,
        Conversation.run_andThen, hCount, Conversation.map,
        Conversation.run_andThen, ih hRest]
      rfl

/- Counting all defined types finds everything of these types. -/
theorem run_countAll
    {α : Type}
    {s : Store}
    (key : α → String)
    {xs : List α}
    {element : Element}
    {count : String → Conversation (Option Nat)}
    (hCount :
      ∀ type, (count type).run service s =
        (some (xs.countP (fun x => decide (key x = type))), s))
    {defined : List String}
    (hDistinct : defined.Nodup)
    (hDefined : ∀ x ∈ xs, key x ∈ defined)
    {type : TypeRef}
    (hAll : type.name? = none) :
    (Operation.require .schema
        (Graph.countedTypes element defined type)
        (fun types =>
          Operation.always (Graph.sumCounts count types))).run
        service s =
      (.ok xs.length, s) := by
  have hTypes :
      Graph.countedTypes element defined type = .ok defined := by
    unfold Graph.countedTypes
    rw [hAll]
  have hLength :
      xs.countP (fun x => decide (key x ∈ defined)) = xs.length := by
    rw [List.countP_eq_length]
    exact fun x hMem => decide_eq_true (hDefined x hMem)
  rw [Operation.require_of_ok hTypes, Operation.run_always,
    run_sumCounts key xs hCount hDistinct, hLength]

/- Counting all types finds all nodes. -/
theorem Fits.run_nodeCount
    {g : Graph}
    (hFits : s.Fits g.schema)
    (hWorks : s.failure? .countNodes = none)
    {type : TypeRef}
    (hAll : type.name? = none) :
    (g.nodeCount type).run service s = (.ok s.nodes.length, s) := by
  apply run_countAll (fun entry => entry.1.type) _
    g.schema.nodes.nodup
    (fun entry hMem => (hFits.nodes entry hMem).mem_keys) hAll
  intro name
  simp [Conversation.attempt, Conversation.run,
    answer_of_working (.countNodes name) hWorks, perform,
    nodeCount, Except.toOption]

/- Counting all types finds all edges. -/
theorem Fits.run_edgeCount
    {g : Graph}
    (hFits : s.Fits g.schema)
    (hWorks : s.failure? .countEdges = none)
    {type : TypeRef}
    (hAll : type.name? = none) :
    (g.edgeCount type).run service s = (.ok s.edges.length, s) := by
  apply run_countAll (fun entry => entry.1.route.edge) _
    g.schema.edges.nodup
    (fun entry hMem => (hFits.edges entry hMem).mem_keys) hAll
  intro name
  simp [Conversation.attempt, Conversation.run,
    answer_of_working (.countEdges name) hWorks, perform,
    edgeCount, Except.toOption]

/- The nodes of dropped types are gone, and all others stay. -/
theorem nodes_dropTypes
    (s : Store)
    (types : List String) :
    (s.dropTypes types).nodes =
      s.nodes.filter (fun entry => decide (entry.1.type ∉ types)) := by
  induction types generalizing s with
  | nil =>
      rw [List.filter_eq_self.mpr (fun _ _ => by simp)]
      rfl
  | cons type types ih =>
      have hRest := ih (s.dropNodes (fun node => node.type = type))
      change (dropTypes _ types).nodes = _
      rw [hRest]
      simp [dropNodes, List.filter_filter, Bool.and_comm]

/- Clearing that says that it has worked leaves no node. -/
theorem Fits.nodes_clear
    {g : Graph}
    (hFits : s.Fits g.schema)
    (hCleared : (g.clear.run service s).1 = true) :
    (g.clear.run service s).2.nodes = [] := by
  have hTyped :
      ∀ entry ∈ s.nodes, entry.1.type ∈ g.schema.nodes.keys :=
    fun entry hMem => (hFits.nodes entry hMem).mem_keys
  unfold Graph.clear at hCleared ⊢
  rw [run_deleteAll] at hCleared ⊢
  cases hVerb : s.failure? .deleteNodes with
  | none =>
      change (s.dropTypes g.schema.nodes.keys).nodes = []
      rw [nodes_dropTypes, List.filter_eq_nil_iff]
      intro entry hMem
      simp [hTyped entry hMem]
  | some e =>
      -- a clearance that cannot fail has no types to go through
      rw [hVerb] at hCleared
      change s.nodes = []
      rw [List.isEmpty_iff.mp hCleared] at hTyped
      exact List.eq_nil_iff_forall_not_mem.mpr
        (fun entry hMem => List.not_mem_nil (hTyped entry hMem))

end Store

end GraphClient

------------------------------------------------------------
-- Main Result
------------------------------------------------------------

namespace GraphClient

/- Whatever happens in a session, its store can be left behind. -/
theorem Session.reachable_run
    (g : Graph)
    (events : List Event) :
    (run g events).store.Reachable g.schema := by
  have hAny :
      ∀ x : Session, x.store.Reachable g.schema →
        (events.foldl (step g) x).store.Reachable g.schema := by
    induction events with
    | nil => exact fun _ hReachable => hReachable
    | cons event events ih =>
        intro x hReachable
        apply ih
        cases event with
        | act action => exact hReachable.act g rfl action
        | fail verb e => exact hReachable.fail verb e
        | recover verb => exact hReachable.recover verb
        | queueResponse response =>
            exact hReachable.pushResponse response
        | queueOutput output => exact hReachable.pushOutput output
  exact hAny _ .empty

namespace Store

/-
  Everything that is stored fits the schema.  So the counts over
  all types are the numbers of all nodes and of all edges, as
  long as counting works, and a clearance that has worked has
  left no node.
-/
theorem reachable_fits_schema
    (g : Graph)
    (s : Store)
    (hReachable : s.Reachable g.schema) :
    s.Fits g.schema ∧
      (∀ type : TypeRef, type.name? = none →
        s.failure? .countNodes = none →
        ((g.nodeCount type).run service s).1 =
          .ok s.nodes.length) ∧
      (∀ type : TypeRef, type.name? = none →
        s.failure? .countEdges = none →
        ((g.edgeCount type).run service s).1 =
          .ok s.edges.length) ∧
      ((g.clear.run service s).1 = true →
        (g.clear.run service s).2.nodes = []) := by
  have hFits := fits_of_reachable hReachable
  refine ⟨hFits, ?_, ?_, hFits.nodes_clear⟩
  · intro type hAll hWorks
    rw [hFits.run_nodeCount hWorks hAll]
  · intro type hAll hWorks
    rw [hFits.run_edgeCount hWorks hAll]

/- After the meeting there are two persons and two edges. -/
theorem reachable_fits_schema_meeting :
    ((Graph.acquaintance.nodeCount none).run service
          (Session.run .acquaintance Session.meeting).store).1 = .ok 2 ∧
      ((Graph.acquaintance.edgeCount (some "")).run service
          (Session.run .acquaintance Session.meeting).store).1 = .ok 2 ∧
      (Graph.acquaintance.clear.run service
          (Session.run .acquaintance Session.meeting).store).2.nodes =
        [] := by
  have hStored :=
    reachable_fits_schema .acquaintance
      (Session.run .acquaintance Session.meeting).store
      (Session.reachable_run .acquaintance Session.meeting)
  exact ⟨hStored.2.1 none rfl rfl, hStored.2.2.1 (some "") rfl rfl,
    hStored.2.2.2 rfl⟩

end Store

end GraphClient
