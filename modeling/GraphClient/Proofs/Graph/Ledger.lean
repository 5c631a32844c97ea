import GraphClient.Proofs.Graph.Action
import GraphClient.Proofs.Schema.Accepted
import Mathlib.Logic.Function.Basic
/-
  A ledger of what a client has written.

  Key definitions include:
    * `GraphClient.Ledger`
    * `GraphClient.Ledger.record`
    * `GraphClient.Session`
    * `GraphClient.Session.run`
    * `GraphClient.Session.Faithful`
    * `GraphClient.Graph.acquaintance`

  Key theorems include:
    * `GraphClient.Session.faithful_step`
    * `GraphClient.Session.faithful_run`
    * `GraphClient.Session.ledger_answers`

  A ledger is kept from the results of actions alone: it never
  looks into the store.  Whatever actions are taken in whatever
  order, and whichever verbs fail meanwhile, the store answers
  as the ledger says.
-/

------------------------------------------------------------
-- Ledgers
------------------------------------------------------------

namespace GraphClient

/- The values of nodes, and the edges in the order of writing. -/
structure Ledger where
  bags : NodeRef → Option Bag
  links : List (Link × Bag)

namespace Ledger

/- Nothing has been written. -/
def empty : Ledger :=
  ⟨fun _ => none, []⟩

/- A node has been written. -/
def write
    (ledger : Ledger)
    (node : NodeRef)
    (bag : Bag) :
    Ledger :=
  { ledger with
    bags := Function.update ledger.bags node (some bag) }

/- Nodes of a type have been written, one after the other. -/
def writeAll
    (ledger : Ledger)
    (type : String)
    (items : List (String × Bag)) :
    Ledger :=
  items.foldl
    (fun ledger item => ledger.write ⟨type, item.1⟩ item.2) ledger

/- A node has been removed. -/
def erase
    (ledger : Ledger)
    (node : NodeRef) :
    Ledger :=
  { ledger with
    bags := Function.update ledger.bags node none }

/- All nodes have been removed. -/
def wipe
    (ledger : Ledger) :
    Ledger :=
  { ledger with bags := fun _ => none }

/- Edges between nodes of given types have been written. -/
def append
    (ledger : Ledger)
    (route : Route)
    (items : List (Ends × Bag)) :
    Ledger :=
  { ledger with
    links := ledger.links ++
      items.map (fun item => (⟨route, item.1⟩, item.2)) }

/- The values of the first edge between two nodes. -/
def firstBag?
    (ledger : Ledger)
    (link : Link) :
    Option Bag :=
  (ledger.links.find? (fun entry => entry.1 = link)).map Prod.snd

/- A change that needs a reference to resolve. -/
def changeFor
    {β : Type}
    (ledger : Ledger)
    (resolved : Except SchemaError β)
    (change : β → Ledger) :
    Ledger :=
  match resolved with
  | .ok b => change b
  | .error _ => ledger

/-
  Note an action and its result.  A write that has a number, a
  removal that says that there was something, and a clearance
  without failure are changes; all else is none.
-/
def record
    (schema : Schema)
    (ledger : Ledger) :
    (action : Action) → action.Result → Ledger
| .addNode id type bag, .ok (some _) =>
    ledger.changeFor (schema.resolveNode type) (fun name =>
      ledger.write ⟨name, id⟩ bag)
| .addNodes items type common, .ok (some _) =>
    ledger.changeFor (schema.resolveNode type) (fun name =>
      ledger.writeAll name
        (items.map (fun item => (item.1, item.2.override common))))
| .removeNode id type, .ok true =>
    ledger.changeFor (schema.resolveNode type) (fun name =>
      ledger.erase ⟨name, id⟩)
| .clear, true => ledger.wipe
| .addEdge ends types bag, .ok (some _) =>
    ledger.changeFor (schema.resolveRoute types) (fun route =>
      ledger.append route [(ends, bag)])
| .addEdges items types common, .ok (some _) =>
    ledger.changeFor (schema.resolveRoute types) (fun route =>
      ledger.append route
        (items.map (fun item => (item.1, item.2.override common))))
| _, _ => ledger

/- Only what is there to change something is noted. -/
theorem record_of_reads
    (schema : Schema)
    (ledger : Ledger)
    {action : Action}
    (hReads : action.writes = false)
    (result : action.Result) :
    ledger.record schema action result = ledger := by
  cases action with
  | addNode id type bag => cases hReads
  | addNodes items type common => cases hReads
  | removeNode id type => cases hReads
  | clear => cases hReads
  | addEdge ends types bag => cases hReads
  | addEdges items types common => cases hReads
  | _ => rfl

end Ledger

end GraphClient

------------------------------------------------------------
-- Sessions
------------------------------------------------------------

namespace GraphClient

/- What may happen to a store and its client. -/
inductive Event
| act (action : Action)
| fail (verb : Verb) (e : RemoteError)
| recover (verb : Verb)
| queueResponse (response : Response)
| queueOutput (output : String)

/- A store, and the ledger of its client. -/
structure Session where
  store : Store
  ledger : Ledger

namespace Session

/- The session after an event. -/
def step
    (g : Graph)
    (x : Session) :
    Event → Session
| .act action =>
    let after := (action.conversation g).run Store.service x.store
    ⟨after.2, x.ledger.record g.schema action after.1⟩
| .fail verb e => { x with store := x.store.fail verb e }
| .recover verb => { x with store := x.store.recover verb }
| .queueResponse response =>
    { x with store := x.store.pushResponse response }
| .queueOutput output =>
    { x with store := x.store.pushOutput output }

/- The session after some events, from an empty store on. -/
def run
    (g : Graph)
    (events : List Event) :
    Session :=
  events.foldl (step g) ⟨.empty, .empty⟩

/- What an action ends with in a session. -/
def ask
    (g : Graph)
    (x : Session)
    (action : Action) :
    action.Result :=
  ((action.conversation g).run Store.service x.store).1

/-
  A session is faithful when its store holds what its ledger
  says, and every node in it has a type of the schema.
-/
structure Faithful (g : Graph) (x : Session) : Prop where
  nodes : ∀ node, x.store.node? node = x.ledger.bags node
  edges : x.store.edges = x.ledger.links
  typed :
    ∀ node, x.ledger.bags node ≠ none →
      node.type ∈ g.schema.nodes.keys

end Session

end GraphClient

------------------------------------------------------------
-- Clearing and Removing
------------------------------------------------------------

namespace GraphClient

namespace Store

/- Remove all nodes of some types, one type after the other. -/
def dropTypes
    (s : Store)
    (types : List String) :
    Store :=
  types.foldl
    (fun s type => s.dropNodes (fun node => node.type = type)) s

/- The nodes of dropped types are gone, and all others stay. -/
theorem node?_dropTypes
    (s : Store)
    (types : List String)
    (node : NodeRef) :
    (s.dropTypes types).node? node =
      if node.type ∈ types then none else s.node? node := by
  induction types generalizing s with
  | nil => rfl
  | cons type types ih =>
      have hRest := ih (s.dropNodes (fun n => n.type = type))
      by_cases hType : node.type = type
      · simpa [dropTypes, hType] using hRest
      · simpa [dropTypes, hType] using hRest

/- Dropping types leaves the edges alone. -/
theorem edges_dropTypes
    (s : Store)
    (types : List String) :
    (s.dropTypes types).edges = s.edges := by
  induction types generalizing s with
  | nil => rfl
  | cons type types ih => exact ih (s.dropNodes _)

/- Clearing stops at once, or goes through all types. -/
theorem run_deleteAll
    (types : List String)
    (s : Store) :
    (Graph.Exact.deleteAll types).run service s =
      match s.failure? .deleteNodes with
      | some _ => (types.isEmpty, s)
      | none => (true, s.dropTypes types) := by
  cases hVerb : s.failure? .deleteNodes with
  | some e =>
      cases types with
      | nil => rfl
      | cons type types =>
          have hCall := answer_of_failure (.deleteNodes type) hVerb
          simp [Graph.Exact.deleteAll, Conversation.run, hCall]
  | none =>
      induction types generalizing s with
      | nil => rfl
      | cons type types ih =>
          have hCall := answer_of_working (.deleteNodes type) hVerb
          have hRest :=
            ih (s.dropNodes (fun node => node.type = type)) hVerb
          simp only [Graph.Exact.deleteAll, Conversation.run, hCall]
          exact hRest

/- Removing a node says whether it was there. -/
theorem run_removeNode
    (node : NodeRef)
    (s : Store) :
    (Operation.always (Graph.Exact.removeNode node)).run service s =
      match s.failure? .deleteNode with
      | some _ => (.ok false, s)
      | none =>
          (.ok (s.node? node).isSome,
            s.dropNodes (fun other => other = node)) := by
  rw [Operation.run_always]
  cases hVerb : s.failure? .deleteNode with
  | some e =>
      have hCall := answer_of_failure (.deleteNode node) hVerb
      simp [Graph.Exact.removeNode, Conversation.run, hCall]
  | none =>
      have hCall := answer_of_working (.deleteNode node) hVerb
      cases hNode : s.node? node <;>
        simp [Graph.Exact.removeNode, Conversation.run, hCall,
          perform, hNode]

/- Edges of a batch come after those before it, in order. -/
theorem edges_putEdges
    (s : Store)
    (route : Route)
    (items : List (Ends × Bag)) :
    (items.foldl
        (fun s edge => s.putEdge ⟨route, edge.1⟩ edge.2) s).edges =
      s.edges ++
        items.map (fun item => (⟨route, item.1⟩, item.2)) := by
  induction items generalizing s with
  | nil => simp
  | cons item items ih =>
      have hRest := ih (s.putEdge ⟨route, item.1⟩ item.2)
      simpa using hRest

/- Edges of a batch leave the nodes alone. -/
theorem node?_putEdges
    (s : Store)
    (route : Route)
    (items : List (Ends × Bag))
    (node : NodeRef) :
    (items.foldl
        (fun s edge => s.putEdge ⟨route, edge.1⟩ edge.2) s).node?
        node = s.node? node := by
  induction items generalizing s with
  | nil => rfl
  | cons item items ih =>
      exact ih (s.putEdge ⟨route, item.1⟩ item.2)

end Store

end GraphClient

------------------------------------------------------------
-- Changes Keep a Session Faithful
------------------------------------------------------------

namespace GraphClient

namespace Session

variable {g : Graph} {s : Store} {ledger : Ledger}

/- A session without events is faithful. -/
theorem faithful_empty
    (g : Graph) :
    Faithful g ⟨.empty, .empty⟩ where
  nodes := fun _ => rfl
  edges := rfl
  typed := fun _ hSome => (hSome rfl).elim

/- Faithfulness only depends on nodes and edges. -/
theorem Faithful.congr
    (hFaithful : Faithful g ⟨s, ledger⟩)
    {t : Store}
    (hNodes : ∀ node, t.node? node = s.node? node)
    (hEdges : t.edges = s.edges) :
    Faithful g ⟨t, ledger⟩ where
  nodes := fun node => (hNodes node).trans (hFaithful.nodes node)
  edges := hEdges.trans hFaithful.edges
  typed := hFaithful.typed

/- A node of a defined type is written in both. -/
theorem Faithful.write
    (hFaithful : Faithful g ⟨s, ledger⟩)
    (node : NodeRef)
    (hType : node.type ∈ g.schema.nodes.keys)
    (bag : Bag) :
    Faithful g ⟨s.putNode node bag, ledger.write node bag⟩ where
  nodes := by
    intro other
    have hOther := hFaithful.nodes other
    by_cases hNode : other = node
    · simp [Ledger.write, hNode]
    · have hNe : ¬ node = other := fun h => hNode h.symm
      simpa [Ledger.write, Function.update_of_ne hNode, hNe]
        using hOther
  edges := hFaithful.edges
  typed := by
    intro other hSome
    by_cases hNode : other = node
    · rw [hNode]
      exact hType
    · apply hFaithful.typed other
      simpa [Ledger.write, Function.update_of_ne hNode] using hSome

/- A batch of nodes of a defined type is written in both. -/
theorem Faithful.writeAll
    (hFaithful : Faithful g ⟨s, ledger⟩)
    {type : String}
    (hType : type ∈ g.schema.nodes.keys)
    (items : List (String × Bag)) :
    Faithful g
      ⟨items.foldl
          (fun s node => s.putNode ⟨type, node.1⟩ node.2) s,
        ledger.writeAll type items⟩ := by
  induction items generalizing s ledger with
  | nil => exact hFaithful
  | cons item items ih =>
      exact ih (hFaithful.write ⟨type, item.1⟩ hType item.2)

/- A node is removed from both. -/
theorem Faithful.erase
    (hFaithful : Faithful g ⟨s, ledger⟩)
    (node : NodeRef) :
    Faithful g
      ⟨s.dropNodes (fun other => other = node),
        ledger.erase node⟩ where
  nodes := by
    intro other
    have hOther := hFaithful.nodes other
    by_cases hNode : other = node
    · simp [Ledger.erase, hNode]
    · simpa [Ledger.erase, Function.update_of_ne hNode, hNode]
        using hOther
  edges := hFaithful.edges
  typed := by
    intro other hSome
    apply hFaithful.typed other
    intro hNone
    apply hSome
    by_cases hNode : other = node
    · simp [Ledger.erase, hNode]
    · simpa [Ledger.erase, Function.update_of_ne hNode] using hNone

/- All nodes are removed from both, as all have defined types. -/
theorem Faithful.wipe
    (hFaithful : Faithful g ⟨s, ledger⟩) :
    Faithful g
      ⟨s.dropTypes g.schema.nodes.keys, ledger.wipe⟩ where
  nodes := by
    intro node
    rw [Store.node?_dropTypes]
    by_cases hType : node.type ∈ g.schema.nodes.keys
    · simp [Ledger.wipe, hType]
    · have hNone : ledger.bags node = none := by
        by_contra hSome
        exact hType (hFaithful.typed node hSome)
      have hNode : s.node? node = none :=
        (hFaithful.nodes node).trans hNone
      simp [Ledger.wipe, hNode]
  edges := (Store.edges_dropTypes s _).trans hFaithful.edges
  typed := fun _ hSome => (hSome rfl).elim

/- Edges are written in both, in the same order. -/
theorem Faithful.append
    (hFaithful : Faithful g ⟨s, ledger⟩)
    (route : Route)
    (items : List (Ends × Bag)) :
    Faithful g
      ⟨items.foldl
          (fun s edge => s.putEdge ⟨route, edge.1⟩ edge.2) s,
        ledger.append route items⟩ where
  nodes := fun node =>
    (Store.node?_putEdges s route items node).trans
      (hFaithful.nodes node)
  edges := by
    have hEdges : s.edges = ledger.links := hFaithful.edges
    rw [Store.edges_putEdges, hEdges]
    rfl
  typed := hFaithful.typed

end Session

end GraphClient

------------------------------------------------------------
-- Steps Keep a Session Faithful
------------------------------------------------------------

namespace GraphClient

namespace Session

variable {g : Graph} {x : Session}

/- A refused write is noted as nothing, and does nothing. -/
theorem faithful_refused
    (hFaithful : x.Faithful g)
    {α : Type}
    {write : Operation α}
    {e : GraphError}
    (hRefused : write = Operation.fail e)
    {note : Except GraphError α → Ledger}
    (hNote : note (.error e) = x.ledger) :
    Faithful g
      ⟨(write.run Store.service x.store).2,
        note (write.run Store.service x.store).1⟩ := by
  subst hRefused
  change Faithful g ⟨x.store, note (.error e)⟩
  rw [hNote]
  exact hFaithful

/-
  An attempted write is noted exactly when its verb works, and
  does nothing when it does not.
-/
theorem faithful_attempt
    (hFaithful : x.Faithful g)
    {write : Operation (Option Nat)}
    {verb : Verb}
    {n : Nat}
    {after : Store}
    (hRun :
      write.run Store.service x.store =
        match x.store.failure? verb with
        | some _ => (.ok none, x.store)
        | none => (.ok (some n), after))
    {note : Except GraphError (Option Nat) → Ledger}
    (hNone : note (.ok none) = x.ledger)
    (hSome : Faithful g ⟨after, note (.ok (some n))⟩) :
    Faithful g
      ⟨(write.run Store.service x.store).2,
        note (write.run Store.service x.store).1⟩ := by
  rw [hRun]
  cases x.store.failure? verb with
  | some e =>
      simp only [hNone]
      exact hFaithful
  | none => exact hSome

/- Writing a node keeps a session faithful. -/
theorem faithful_addNode
    (hFaithful : x.Faithful g)
    (id : String)
    (type : TypeRef)
    (bag : Bag) :
    (x.step g (.act (.addNode id type bag))).Faithful g := by
  rcases g.addNode_cases id type bag with
    ⟨e, hRefused⟩ | ⟨name, nodeType, hResolve, _, _, hAttempt⟩
  · exact faithful_refused hFaithful hRefused rfl
  · have hRun := Store.run_attempt (.upsertNode ⟨name, id⟩ bag) x.store
    rw [← hAttempt] at hRun
    refine faithful_attempt hFaithful hRun rfl ?_
    simp only [Ledger.record, hResolve, Ledger.changeFor]
    exact hFaithful.write ⟨name, id⟩
      (Schema.mem_of_resolve hResolve) bag

/- Writing a batch of nodes keeps a session faithful. -/
theorem faithful_addNodes
    (hFaithful : x.Faithful g)
    (items : List (String × Bag))
    (type : TypeRef)
    (common : Bag) :
    (x.step g (.act (.addNodes items type common))).Faithful g := by
  rcases g.addNodes_cases items type common with
    ⟨e, hRefused⟩ | ⟨name, nodeType, hResolve, _, _, hAttempt⟩
  · exact faithful_refused hFaithful hRefused rfl
  · have hRun :=
      Store.run_attempt
        (.upsertNodes name (Batch.merged common items)) x.store
    rw [← hAttempt] at hRun
    refine faithful_attempt hFaithful hRun rfl ?_
    simp only [Ledger.record, hResolve, Ledger.changeFor]
    exact hFaithful.writeAll (Schema.mem_of_resolve hResolve)
      (Batch.merged common items)

/- Writing an edge keeps a session faithful. -/
theorem faithful_addEdge
    (hFaithful : x.Faithful g)
    (ends : Ends)
    (types : RouteRef)
    (bag : Bag) :
    (x.step g (.act (.addEdge ends types bag))).Faithful g := by
  rcases g.addEdge_cases ends types bag with
    ⟨e, hRefused⟩ | ⟨route, hResolve, _, hAttempt⟩
  · exact faithful_refused hFaithful hRefused rfl
  · have hRun :=
      Store.run_attempt (.upsertEdge ⟨route, ends⟩ bag) x.store
    rw [← hAttempt] at hRun
    refine faithful_attempt hFaithful hRun rfl ?_
    simp only [Ledger.record, hResolve, Ledger.changeFor]
    exact hFaithful.append route [(ends, bag)]

/- Writing a batch of edges keeps a session faithful. -/
theorem faithful_addEdges
    (hFaithful : x.Faithful g)
    (items : List (Ends × Bag))
    (types : RouteRef)
    (common : Bag) :
    (x.step g (.act (.addEdges items types common))).Faithful g := by
  rcases g.addEdges_cases items types common with
    ⟨e, hRefused⟩ | ⟨route, hResolve, _, hAttempt⟩
  · exact faithful_refused hFaithful hRefused rfl
  · have hRun :=
      Store.run_attempt
        (.upsertEdges route (Batch.merged common items)) x.store
    rw [← hAttempt] at hRun
    refine faithful_attempt hFaithful hRun rfl ?_
    simp only [Ledger.record, hResolve, Ledger.changeFor]
    exact hFaithful.append route (Batch.merged common items)

/-
  Removing a node keeps a session faithful.  A removal that
  works and finds nothing says so, and there is nothing to note.
-/
theorem faithful_removeNode
    (hFaithful : x.Faithful g)
    (id : String)
    (type : TypeRef) :
    (x.step g (.act (.removeNode id type))).Faithful g := by
  rcases g.removeNode_cases id type with
    ⟨e, hRefused⟩ | ⟨name, hResolve, hRemove⟩
  · exact faithful_refused hFaithful hRefused rfl
  · have hRun := Store.run_removeNode ⟨name, id⟩ x.store
    rw [← hRemove] at hRun
    change Faithful g
      ⟨((g.removeNode id type).run Store.service x.store).2,
        x.ledger.record g.schema (.removeNode id type)
          ((g.removeNode id type).run Store.service x.store).1⟩
    rw [hRun]
    cases x.store.failure? .deleteNode with
    | some e => exact hFaithful
    | none =>
        cases hNode : x.store.node? ⟨name, id⟩ with
        | some bag =>
            simp only [Ledger.record, hResolve, Ledger.changeFor,
              Option.isSome_some]
            exact hFaithful.erase ⟨name, id⟩
        | none =>
            apply Faithful.congr hFaithful
            · intro other
              by_cases hOther : other = ⟨name, id⟩
              · simp [hOther, hNode]
              · simp [hOther]
            · rfl

/- Clearing keeps a session faithful. -/
theorem faithful_clear
    (hFaithful : x.Faithful g) :
    (x.step g (.act .clear)).Faithful g := by
  have hRun := Store.run_deleteAll g.schema.nodes.keys x.store
  change Faithful g
    ⟨(g.clear.run Store.service x.store).2,
      x.ledger.record g.schema .clear
        (g.clear.run Store.service x.store).1⟩
  unfold Graph.clear
  rw [hRun]
  cases x.store.failure? .deleteNodes with
  | none => exact hFaithful.wipe
  | some e =>
      -- without node types there is no call that could fail
      cases hTypes : g.schema.nodes.keys with
      | nil =>
          have hWipe := hFaithful.wipe
          rw [hTypes] at hWipe
          exact hWipe
      | cons type types => exact hFaithful

/- Every event keeps a session faithful. -/
theorem faithful_step
    (hFaithful : x.Faithful g)
    (event : Event) :
    (x.step g event).Faithful g := by
  cases event with
  | fail verb e => exact hFaithful.congr (fun _ => rfl) rfl
  | recover verb => exact hFaithful.congr (fun _ => rfl) rfl
  | queueResponse response =>
      exact hFaithful.congr (fun _ => rfl) rfl
  | queueOutput output => exact hFaithful.congr (fun _ => rfl) rfl
  | act action =>
      by_cases hReads : action.writes = false
      · have hSame :=
          Store.run_reading (action.reads_only g hReads) x.store
        change Faithful g ⟨_, x.ledger.record g.schema action _⟩
        rw [Ledger.record_of_reads g.schema x.ledger hReads]
        exact hFaithful.congr hSame.node? hSame.edges
      · cases action with
        | addNode id type bag =>
            exact faithful_addNode hFaithful id type bag
        | addNodes items type common =>
            exact faithful_addNodes hFaithful items type common
        | removeNode id type =>
            exact faithful_removeNode hFaithful id type
        | clear => exact faithful_clear hFaithful
        | addEdge ends types bag =>
            exact faithful_addEdge hFaithful ends types bag
        | addEdges items types common =>
            exact faithful_addEdges hFaithful items types common
        | _ => exact (hReads rfl).elim

/- Whatever happens, a session stays faithful. -/
theorem faithful_run
    (g : Graph)
    (events : List Event) :
    (run g events).Faithful g := by
  unfold run
  have hAny :
      ∀ x : Session, x.Faithful g →
        (events.foldl (step g) x).Faithful g := by
    induction events with
    | nil => exact fun _ hFaithful => hFaithful
    | cons event events ih =>
        exact fun x hFaithful =>
          ih (x.step g event) (faithful_step hFaithful event)
  exact hAny _ (faithful_empty g)

end Session

end GraphClient

------------------------------------------------------------
-- Answers
------------------------------------------------------------

namespace GraphClient

/- The record of a node has the values of the node. -/
theorem NodeRef.attributes_record
    (node : NodeRef)
    (bag : Bag) :
    Record.attributes? (node.record bag) =
      some (Json.sorted bag.fields) :=
  rfl

/- The record of an edge has the values of the edge. -/
theorem Link.attributes_record
    (link : Link)
    (bag : Bag) :
    Record.attributes? (link.record bag) =
      some (Json.sorted bag.fields) :=
  rfl

namespace Store

/- The first of the edges between two nodes is the oldest. -/
theorem head?_linked
    (s : Store)
    (link : Link) :
    (s.linked link).head? =
      (s.edges.find? (fun entry => entry.1 = link)).map Prod.snd := by
  unfold linked
  rw [List.head?_map, List.head?_filter]

end Store

namespace Session

variable {g : Graph} {x : Session}

/- A node is there when the ledger has it. -/
theorem ask_hasNode
    (hFaithful : x.Faithful g)
    {id : String}
    {type : TypeRef}
    {name : String}
    (hResolve : g.schema.resolveNode type = .ok name)
    (hWorks : x.store.failure? .retrieveNode = none) :
    x.ask g (.hasNode id type) =
      .ok (x.ledger.bags ⟨name, id⟩).isSome := by
  have hNext :
      g.hasNode id type =
        Operation.always (Graph.Exact.hasNode ⟨name, id⟩) :=
    Operation.require_of_ok hResolve
  have hCall :=
    Store.answer_of_working (.retrieveNode ⟨name, id⟩) hWorks
  have hNode := hFaithful.nodes ⟨name, id⟩
  change ((g.hasNode id type).run Store.service x.store).1 = _
  rw [hNext, Operation.run_always]
  simp only [Graph.Exact.hasNode, Conversation.run, hCall,
    Store.perform, hNode]
  cases x.ledger.bags ⟨name, id⟩ <;> rfl

/- The values of a node are those of the ledger. -/
theorem ask_nodeData
    (hFaithful : x.Faithful g)
    {id : String}
    {type : TypeRef}
    {name : String}
    (hResolve : g.schema.resolveNode type = .ok name)
    (hWorks : x.store.failure? .retrieveNode = none) :
    x.ask g (.nodeData id type) =
      .ok ((x.ledger.bags ⟨name, id⟩).map
        (fun bag => Json.sorted bag.fields)) := by
  have hNext :
      g.nodeData id type = Graph.Exact.nodeData ⟨name, id⟩ :=
    Operation.require_of_ok hResolve
  have hCall :=
    Store.answer_of_working (.retrieveNode ⟨name, id⟩) hWorks
  have hNode := hFaithful.nodes ⟨name, id⟩
  change ((g.nodeData id type).run Store.service x.store).1 = _
  rw [hNext]
  simp only [Graph.Exact.nodeData, Conversation.run, hCall,
    Store.perform, hNode]
  cases x.ledger.bags ⟨name, id⟩ with
  | none => rfl
  | some bag =>
      exact congrArg Except.ok
        (NodeRef.attributes_record ⟨name, id⟩ bag)

/- An edge is there when the ledger has one. -/
theorem ask_hasEdge
    (hFaithful : x.Faithful g)
    {ends : Ends}
    {types : RouteRef}
    {route : Route}
    (hResolve : g.schema.resolveRoute types = .ok route)
    (hWorks : x.store.failure? .countLink = none) :
    x.ask g (.hasEdge ends types) =
      .ok (x.ledger.firstBag? ⟨route, ends⟩).isSome := by
  have hNext :
      g.hasEdge ends types =
        Operation.always (Graph.Exact.hasEdge ⟨route, ends⟩) :=
    Operation.require_of_ok hResolve
  have hCall :=
    Store.answer_of_working (.countLink ⟨route, ends⟩) hWorks
  have hFirst := Store.head?_linked x.store ⟨route, ends⟩
  rw [hFaithful.edges] at hFirst
  change ((g.hasEdge ends types).run Store.service x.store).1 = _
  rw [hNext, Operation.run_always]
  simp only [Graph.Exact.hasEdge, Conversation.run, hCall,
    Store.perform, Ledger.firstBag?, ← hFirst]
  cases x.store.linked ⟨route, ends⟩ <;> simp

/- The values of an edge are those of the first in the ledger. -/
theorem ask_edgeData
    (hFaithful : x.Faithful g)
    {ends : Ends}
    {types : RouteRef}
    {route : Route}
    (hResolve : g.schema.resolveRoute types = .ok route)
    (hWorks : x.store.failure? .getLink = none) :
    x.ask g (.edgeData ends types) =
      .ok ((x.ledger.firstBag? ⟨route, ends⟩).map
        (fun bag => Json.sorted bag.fields)) := by
  have hNext :
      g.edgeData ends types = Graph.Exact.edgeData ⟨route, ends⟩ :=
    Operation.require_of_ok hResolve
  have hCall :=
    Store.answer_of_working (.getLink ⟨route, ends⟩) hWorks
  have hFirst := Store.head?_linked x.store ⟨route, ends⟩
  rw [hFaithful.edges] at hFirst
  change ((g.edgeData ends types).run Store.service x.store).1 = _
  rw [hNext]
  simp only [Graph.Exact.edgeData, Conversation.run, hCall,
    Store.perform, Ledger.firstBag?, ← hFirst]
  cases x.store.linked ⟨route, ends⟩ with
  | nil => rfl
  | cons bag rest =>
      exact congrArg Except.ok
        (Link.attributes_record ⟨route, ends⟩ bag)

/-
  Whatever happened before, the look-ups of a client answer what
  the ledger says, as long as the verb that they use works.
-/
theorem ledger_answers
    (g : Graph)
    (events : List Event) :
    (∀ id type name,
        g.schema.resolveNode type = .ok name →
        (run g events).store.failure? .retrieveNode = none →
        (run g events).ask g (.hasNode id type) =
            .ok ((run g events).ledger.bags ⟨name, id⟩).isSome ∧
          (run g events).ask g (.nodeData id type) =
            .ok (((run g events).ledger.bags ⟨name, id⟩).map
              (fun bag => Json.sorted bag.fields))) ∧
      ∀ ends types route,
        g.schema.resolveRoute types = .ok route →
        ((run g events).store.failure? .countLink = none →
          (run g events).ask g (.hasEdge ends types) =
            .ok ((run g events).ledger.firstBag?
              ⟨route, ends⟩).isSome) ∧
        ((run g events).store.failure? .getLink = none →
          (run g events).ask g (.edgeData ends types) =
            .ok (((run g events).ledger.firstBag?
              ⟨route, ends⟩).map
                (fun bag => Json.sorted bag.fields))) := by
  have hFaithful := faithful_run g events
  refine ⟨?_, ?_⟩
  · intro id type name hResolve hWorks
    exact ⟨ask_hasNode hFaithful hResolve hWorks,
      ask_nodeData hFaithful hResolve hWorks⟩
  · intro ends types route hResolve
    exact ⟨ask_hasEdge hFaithful hResolve,
      ask_edgeData hFaithful hResolve⟩

end Session

end GraphClient

------------------------------------------------------------
-- A Graph of Persons
------------------------------------------------------------

namespace GraphClient

/- Persons are known by their ids. -/
def NodeType.person : NodeType where
  primaryKey := "id"
  attributes :=
    .ofList [("id", .plain .string), ("age", .plain .int)]
  vectors := .empty
  accepted := check_eq_ok_iff.mpr (by decide +kernel)

/- Persons know each other since some year. -/
def EdgeType.knows : EdgeType where
  isDirected := false
  source := "Person"
  target := "Person"
  discriminator := []
  attributes := .ofList [("since", .plain .int)]
  accepted := check_eq_ok_iff.mpr (by decide +kernel)

/- The graph of persons and whom they know. -/
def Graph.acquaintance : Graph :=
  .ofSchema
    { graphName := "Social"
      nodes := .ofList [("Person", .person)]
      edges := .ofList [("Knows", .knows)]
      accepted := Schema.check_eq_ok_iff.mpr (by decide +kernel) }

namespace Session

/-
  One person is written, one is lost by a failure and written
  later, and one is removed; two persons meet twice.
-/
def meeting : List Event :=
  [.act (.addNode "ann" none (.ofList [("age", .int 30)])),
    .fail .upsertNode .cancelled,
    .act (.addNode "bob" none .empty),
    .recover .upsertNode,
    .act (.addNodes [("bob", .empty), ("cy", .empty)]
      (some "Person") (.ofList [("age", .int 7)])),
    .act (.removeNode "cy" none),
    .act (.addEdge ⟨"ann", "bob"⟩ ⟨none, none, none⟩
      (.ofList [("since", .int 2001)])),
    .act (.addEdge ⟨"ann", "bob"⟩ ⟨none, none, none⟩
      (.ofList [("since", .int 2002)]))]

/- After the meeting all look-ups work and see what was written. -/
theorem ledger_answers_meeting :
    (run .acquaintance meeting).ask .acquaintance
          (.nodeData "bob" none) =
        .ok (some [("age", .int 7)]) ∧
      (run .acquaintance meeting).ask .acquaintance
          (.hasNode "cy" none) =
        .ok false ∧
      (run .acquaintance meeting).ask .acquaintance
          (.hasEdge ⟨"ann", "bob"⟩ ⟨none, none, none⟩) =
        .ok true ∧
      (run .acquaintance meeting).ask .acquaintance
          (.edgeData ⟨"ann", "bob"⟩ ⟨none, none, none⟩) =
        .ok (some [("since", .int 2001)]) := by
  have hNodes := (ledger_answers .acquaintance meeting).1
  have hEdges :=
    (ledger_answers .acquaintance meeting).2
      ⟨"ann", "bob"⟩ ⟨none, none, none⟩
      ⟨"Person", "Knows", "Person"⟩ rfl
  exact ⟨(hNodes "bob" none "Person" rfl rfl).2,
    (hNodes "cy" none "Person" rfl rfl).1,
    hEdges.1 rfl, hEdges.2 rfl⟩

end Session

end GraphClient
