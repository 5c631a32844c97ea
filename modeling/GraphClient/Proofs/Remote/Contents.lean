import GraphClient.Proofs.Remote.Asking
import GraphClient.Remote.Store
/-
  What calls do to the nodes and edges of a store.

  Key definitions include:
    * `GraphClient.Call.writes`
    * `GraphClient.Store.SameContents`

  Key theorems include:
    * `GraphClient.Store.node?_putNode`
    * `GraphClient.Store.node?_dropNodes`
    * `GraphClient.Store.run_reading`

  A node is looked up by its type and id, so a write of one node
  is seen by look-ups of that node and by no other.  Calls that
  only ask leave nodes, edges and failures as they are.
-/

------------------------------------------------------------
-- Look-Up
------------------------------------------------------------

namespace GraphClient

namespace Store

/- An empty store has no nodes. -/
@[simp]
theorem node?_empty
    (node : NodeRef) :
    empty.node? node = none :=
  rfl

/- A dropped node is gone, and all others stay. -/
@[simp]
theorem node?_dropNodes
    (s : Store)
    (p : NodeRef → Bool)
    (node : NodeRef) :
    (s.dropNodes p).node? node =
      if p node then none else s.node? node := by
  unfold node? dropNodes
  rw [List.find?_filter]
  by_cases hDrop : p node = true
  · have hNone :
        s.nodes.find?
          (fun entry =>
            (!p entry.1) && decide (entry.1 = node)) = none := by
      rw [List.find?_eq_none]
      intro entry _ hFound
      simp only [Bool.and_eq_true, decide_eq_true_eq] at hFound
      rw [hFound.2, hDrop] at hFound
      simp at hFound
    simp [hNone, hDrop]
  · have hSame :
        (fun entry : NodeRef × Bag =>
            (!p entry.1) && decide (entry.1 = node)) =
          (fun entry => decide (entry.1 = node)) := by
      funext entry
      by_cases hEntry : entry.1 = node
      · simp [hEntry, hDrop]
      · simp [hEntry]
    simp [hSame, hDrop]

/- Looking up after a write sees the write, and only it. -/
@[simp]
theorem node?_putNode
    (s : Store)
    (node other : NodeRef)
    (bag : Bag) :
    (s.putNode node bag).node? other =
      if node = other then some bag else s.node? other := by
  have hRest :=
    node?_dropNodes s (fun n => decide (n = node)) other
  unfold node? at hRest ⊢
  by_cases hNode : node = other
  · simp [putNode, hNode]
  · have hOther : ¬ other = node := fun h => hNode h.symm
    simpa [putNode, hNode, hOther] using hRest

/- Writing an edge leaves the nodes alone. -/
@[simp]
theorem node?_putEdge
    (s : Store)
    (link : Link)
    (bag : Bag)
    (node : NodeRef) :
    (s.putEdge link bag).node? node = s.node? node :=
  rfl

/- Removing nodes leaves the edges alone. -/
@[simp]
theorem edges_dropNodes
    (s : Store)
    (p : NodeRef → Bool) :
    (s.dropNodes p).edges = s.edges :=
  rfl

/- Writing a node leaves the edges alone. -/
@[simp]
theorem edges_putNode
    (s : Store)
    (node : NodeRef)
    (bag : Bag) :
    (s.putNode node bag).edges = s.edges :=
  rfl

/- A written edge comes after those before it. -/
@[simp]
theorem edges_putEdge
    (s : Store)
    (link : Link)
    (bag : Bag) :
    (s.putEdge link bag).edges = s.edges ++ [(link, bag)] :=
  rfl

/- Removing nodes does not change what fails. -/
@[simp]
theorem failure?_dropNodes
    (s : Store)
    (p : NodeRef → Bool)
    (verb : Verb) :
    (s.dropNodes p).failure? verb = s.failure? verb :=
  rfl

end Store

end GraphClient

------------------------------------------------------------
-- Answers
------------------------------------------------------------

namespace GraphClient

namespace Store

/- A verb that fails gives its error, and does nothing. -/
theorem answer_of_failure
    {s : Store}
    (call : Call)
    {e : RemoteError}
    (hFails : s.failure? call.verb = some e) :
    service.answer call s = (.error e, s) := by
  simp [service, hFails]

/- A verb that works does what is asked. -/
theorem answer_of_working
    {s : Store}
    (call : Call)
    (hWorks : s.failure? call.verb = none) :
    service.answer call s =
      (.ok (s.perform call).1, (s.perform call).2) := by
  simp [service, hWorks]

/- A write has no number when its verb fails, and else has one. -/
theorem run_attempt
    (call : Call)
    (s : Store) :
    (Operation.always (.attempt call)).run service s =
      match s.failure? call.verb with
      | some _ => (.ok none, s)
      | none =>
          (.ok (some (s.perform call).1), (s.perform call).2) := by
  rw [Operation.run_always]
  cases hVerb : s.failure? call.verb with
  | some e =>
      simp [Conversation.attempt, Conversation.run,
        answer_of_failure _ hVerb, Except.toOption]
  | none =>
      simp [Conversation.attempt, Conversation.run,
        answer_of_working call hVerb, Except.toOption]

end Store

end GraphClient

------------------------------------------------------------
-- Reading
------------------------------------------------------------

namespace GraphClient

/- Whether a call may change nodes or edges. -/
def Call.writes : Call → Bool
| .upsertNode _ _ => true
| .upsertEdge _ _ => true
| .upsertNodes _ _ => true
| .upsertEdges _ _ => true
| .deleteNode _ => true
| .deleteNodes _ => true
| _ => false

namespace Store

/- Two stores hold the same nodes and edges, and fail alike. -/
structure SameContents (s t : Store) : Prop where
  nodes : t.nodes = s.nodes
  edges : t.edges = s.edges
  failures : t.failures = s.failures

/- Taking a response changes no contents. -/
theorem sameContents_takeResponse
    (s : Store) :
    s.SameContents s.takeResponse.2 := by
  unfold takeResponse
  cases s.responses with
  | nil => exact ⟨rfl, rfl, rfl⟩
  | cons response rest => exact ⟨rfl, rfl, rfl⟩

/- Taking an output changes no contents. -/
theorem sameContents_takeOutput
    (s : Store) :
    s.SameContents s.takeOutput.2 := by
  unfold takeOutput
  cases s.outputs with
  | nil => exact ⟨rfl, rfl, rfl⟩
  | cons output rest => exact ⟨rfl, rfl, rfl⟩

/- A call that is no write changes no contents. -/
theorem sameContents_answer
    (s : Store)
    {call : Call}
    (hReads : call.writes = false) :
    s.SameContents (service.answer call s).2 := by
  cases hVerb : s.failure? call.verb with
  | some e =>
      rw [answer_of_failure _ hVerb]
      exact ⟨rfl, rfl, rfl⟩
  | none =>
      rw [answer_of_working _ hVerb]
      cases call with
      | runInstalled name parameters =>
          exact sameContents_takeResponse s
      | runInterpreted script parameters =>
          exact sameContents_takeResponse s
      | runCommand text => exact sameContents_takeOutput s
      | countLink link => exact ⟨rfl, rfl, rfl⟩
      | getLink link => exact ⟨rfl, rfl, rfl⟩
      | retrieveNode node => exact ⟨rfl, rfl, rfl⟩
      | countNodes type => exact ⟨rfl, rfl, rfl⟩
      | countEdges type => exact ⟨rfl, rfl, rfl⟩
      | upsertNode node bag => cases hReads
      | upsertEdge link bag => cases hReads
      | deleteNode node => cases hReads
      | deleteNodes type => cases hReads
      | upsertNodes type nodes => cases hReads
      | upsertEdges route edges => cases hReads

/- A conversation without writes changes no contents. -/
theorem run_reading
    {α : Type}
    {c : Conversation α}
    (hReads : c.Asks (fun call => call.writes = false))
    (s : Store) :
    s.SameContents (c.run service s).2 := by
  apply Conversation.run_keeps service _ hReads
    (⟨rfl, rfl, rfl⟩ : s.SameContents s)
  intro call t hCall hSame
  have hStep := sameContents_answer t hCall
  exact ⟨hStep.nodes.trans hSame.nodes,
    hStep.edges.trans hSame.edges,
    hStep.failures.trans hSame.failures⟩

/- The same contents answer look-ups alike. -/
theorem SameContents.node?
    {s t : Store}
    (hSame : s.SameContents t)
    (node : NodeRef) :
    t.node? node = s.node? node := by
  unfold Store.node?
  rw [hSame.nodes]

end Store

end GraphClient
