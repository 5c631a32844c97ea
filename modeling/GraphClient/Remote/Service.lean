import GraphClient.Remote.Conversation
/-
  Services made from other services.

  Key definitions include:
    * `GraphClient.Service.batching`
    * `GraphClient.Service.basic`
    * `GraphClient.Service.recording`
    * `GraphClient.Service.replacing`

  A service that knows only the basic verbs still takes batches,
  one write after the other up to the first failure; what else
  it is asked, it does not support.
-/

------------------------------------------------------------
-- Batches as Single Writes
------------------------------------------------------------

namespace GraphClient

namespace Service

variable {σ : Type}

/- Write one node. -/
def upsertNode
    (service : Service σ)
    (node : NodeRef)
    (bag : Bag) :
    σ → Except RemoteError Nat × σ :=
  service.answer (.upsertNode node bag)

/- Write one edge. -/
def upsertEdge
    (service : Service σ)
    (link : Link)
    (bag : Bag) :
    σ → Except RemoteError Nat × σ :=
  service.answer (.upsertEdge link bag)

/- Do something with each item, up to the first failure. -/
def sumEach
    {ι : Type}
    (one : ι → σ → Except RemoteError Nat × σ)
    (accepted : Nat) :
    List ι → σ → Except RemoteError Nat × σ
| [], s => (.ok accepted, s)
| item :: items, s =>
    match one item s with
    | (.ok n, s) => sumEach one (accepted + n) items s
    | (.error e, s) => (.error e, s)

/- Write nodes one after the other. -/
def upsertNodesSingly
    (service : Service σ)
    (type : String)
    (nodes : List (String × Bag)) :
    σ → Except RemoteError Nat × σ :=
  sumEach
    (fun node => service.upsertNode ⟨type, node.1⟩ node.2) 0 nodes

/- Write edges one after the other. -/
def upsertEdgesSingly
    (service : Service σ)
    (route : Route)
    (edges : List (Ends × Bag)) :
    σ → Except RemoteError Nat × σ :=
  sumEach
    (fun edge => service.upsertEdge ⟨route, edge.1⟩ edge.2) 0 edges

/- The service that takes batches as single writes. -/
def batching
    (service : Service σ) :
    Service σ where
  answer := fun call s =>
    match call with
    | .upsertNodes type nodes =>
        service.upsertNodesSingly type nodes s
    | .upsertEdges route edges =>
        service.upsertEdgesSingly route edges s
    | call => service.answer call s

/- The service with the basic verbs and single writes only. -/
def basic
    (service : Service σ) :
    Service σ :=
  batching
    { answer := fun call s =>
        if call.verb.isBasic then
          service.answer call s
        else
          (.error (.unsupported call.verb.name), s) }

end Service

end GraphClient

------------------------------------------------------------
-- Recorded Calls
------------------------------------------------------------

namespace GraphClient

namespace Service

variable {σ : Type}

/- The service that also keeps a list of its calls. -/
def recording
    (service : Service σ) :
    Service (List Call × σ) where
  answer := fun call s =>
    let (o, after) := service.answer call s.2
    (o, s.1 ++ [call], after)

end Service

end GraphClient

------------------------------------------------------------
-- Replaced Answers
------------------------------------------------------------

namespace GraphClient

/- Answers that wait to take the place of others. -/
structure Replacements where
  records : List (List Json)
  counts : List Nat

namespace Replacements

/- No answers. -/
def none : Replacements :=
  ⟨[], []⟩

/- Replace an answer by the next one of its kind. -/
def replace
    (r : Replacements) :
    (kind : AnswerKind) → kind.Answer → kind.Answer × Replacements
| .records, answer =>
    match r.records with
    | [] => (answer, r)
    | records :: rest => (records, { r with records := rest })
| .count, answer =>
    match r.counts with
    | [] => (answer, r)
    | n :: rest => (n, { r with counts := rest })
| .response, answer => (answer, r)
| .text, answer => (answer, r)

end Replacements

namespace Service

variable {σ : Type}

/- The service whose answers may be replaced by waiting ones. -/
def replacing
    (service : Service σ) :
    Service (Replacements × σ) where
  answer := fun call s =>
    match service.answer call s.2 with
    | (.ok answer, after) =>
        let (answer, r) := s.1.replace call.kind answer
        (.ok answer, r, after)
    | (.error e, after) => (.error e, s.1, after)

end Service

end GraphClient
