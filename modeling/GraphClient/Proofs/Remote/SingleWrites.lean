import GraphClient.Remote.Service
/-
  Batches that are taken as single writes.

  Key definitions include:
    * `GraphClient.Write`
    * `GraphClient.WriteBatch`
    * `GraphClient.Service.Accepts`
    * `GraphClient.Service.FailsAfter`

  Key theorems include:
    * `GraphClient.Service.sumEach_eq_ok_iff`
    * `GraphClient.Service.sumEach_eq_error_iff`
    * `GraphClient.Service.batching_applies_prefix`

  A service may answer each write by what the writes before it
  have left.  When it takes a batch as single writes, those up
  to the first failure are made, in order, and no others.
-/

------------------------------------------------------------
-- Writes
------------------------------------------------------------

namespace GraphClient

/- A write of one node or one edge. -/
inductive Write
| node (node : NodeRef) (bag : Bag)
| edge (link : Link) (bag : Bag)

/- The call that makes a write. -/
def Write.call : Write → Call
| .node ref bag => .upsertNode ref bag
| .edge link bag => .upsertEdge link bag

/- Nodes of one type, or edges of one route. -/
inductive WriteBatch
| nodes (type : String) (nodes : List (String × Bag))
| edges (route : Route) (edges : List (Ends × Bag))

/- The single writes of a batch, in order. -/
def WriteBatch.writes : WriteBatch → List Write
| .nodes type items =>
    items.map (fun item => .node ⟨type, item.1⟩ item.2)
| .edges route items =>
    items.map (fun item => .edge ⟨route, item.1⟩ item.2)

namespace Service

variable {σ : Type}

/- Make a single write. -/
def write
    (service : Service σ) :
    Write → σ → Except RemoteError Nat × σ
| .node node bag => service.upsertNode node bag
| .edge link bag => service.upsertEdge link bag

/- Have a batch written. -/
def writeBatch
    (service : Service σ) :
    WriteBatch → σ → Except RemoteError Nat × σ
| .nodes type nodes => service.answer (.upsertNodes type nodes)
| .edges route edges => service.answer (.upsertEdges route edges)

/-
  Writes that are all accepted, each in the state that is left by
  those before it, with the sum of the numbers accepted.
-/
inductive Accepts
    (service : Service σ) :
    List Write → σ → Nat → σ → Prop
| nil (s : σ) : Accepts service [] s 0 s
| cons
    {w : Write} {ws : List Write}
    {s t u : σ}
    {n m : Nat}
    (hFirst : service.write w s = (.ok n, t))
    (hRest : Accepts service ws t m u) :
    Accepts service (w :: ws) s (n + m) u

/-
  Of some writes one fails, after those before it are accepted:
  what was made by then, the error, and the state that is left.
-/
def FailsAfter
    (service : Service σ)
    (ws : List Write)
    (s : σ)
    (made : List Write)
    (e : RemoteError)
    (t : σ) :
    Prop :=
  ∃ before w after n u,
    ws = before ++ w :: after ∧
      made = before ++ [w] ∧
      service.Accepts before s n u ∧
      service.write w u = (.error e, t)

end Service

end GraphClient

------------------------------------------------------------
-- One after the Other
------------------------------------------------------------

namespace GraphClient

namespace Service

variable {σ : Type}
variable {service : Service σ}
variable {w : Write} {ws made : List Write}
variable {s t u : σ}
variable {n : Nat}
variable {e : RemoteError}

/- Nothing fails when there is nothing to write. -/
theorem not_failsAfter_nil :
    ¬ service.FailsAfter [] s made e t := by
  rintro ⟨before, w, after, n, u, hNil, _⟩
  exact List.append_ne_nil_of_right_ne_nil before
    (List.cons_ne_nil w after) hNil.symm

/- A write that fails is the last that is made. -/
theorem failsAfter_cons_of_error
    {found : RemoteError}
    (hFirst : service.write w s = (.error found, u)) :
    service.FailsAfter (w :: ws) s made e t ↔
      made = [w] ∧ e = found ∧ t = u := by
  constructor
  · rintro ⟨before, x, after, n, v, hSplit, rfl, hBefore, hFails⟩
    -- were anything accepted before, it would be the first write
    cases hBefore with
    | nil =>
        cases hSplit
        rw [hFirst] at hFails
        cases hFails
        exact ⟨rfl, rfl, rfl⟩
    | cons hAccepted _ =>
        cases hSplit
        rw [hFirst] at hAccepted
        cases hAccepted
  · rintro ⟨rfl, rfl, rfl⟩
    exact ⟨[], w, ws, 0, s, rfl, rfl, .nil s, hFirst⟩

/- After a write that is accepted it is one of the others. -/
theorem failsAfter_cons_of_ok
    (hFirst : service.write w s = (.ok n, u)) :
    service.FailsAfter (w :: ws) s made e t ↔
      ∃ rest, made = w :: rest ∧
        service.FailsAfter ws u rest e t := by
  constructor
  · rintro ⟨before, x, after, m, v, hSplit, rfl, hBefore, hFails⟩
    cases hBefore with
    | nil =>
        cases hSplit
        rw [hFirst] at hFails
        cases hFails
    | cons hAccepted hOthers =>
        cases hSplit
        rw [hFirst] at hAccepted
        cases hAccepted
        exact ⟨_, rfl, _, x, after, _, v, rfl, rfl, hOthers, hFails⟩
  · rintro ⟨rest, rfl, before, x, after, m, v, rfl, rfl, hOthers,
      hFails⟩
    exact ⟨w :: before, x, after, n + m, v, rfl, rfl,
      .cons hFirst hOthers, hFails⟩

/- All writes are made when each is accepted, and only then. -/
theorem sumEach_eq_ok_iff
    {accepted : Nat} :
    sumEach service.write accepted ws s = (.ok n, t) ↔
      ∃ m, n = accepted + m ∧ service.Accepts ws s m t := by
  -- the rest starts with a larger number, in another state
  induction ws generalizing accepted s with
  | nil =>
      constructor
      · intro hEnd
        cases hEnd
        exact ⟨0, rfl, .nil _⟩
      · rintro ⟨m, rfl, hAccepts⟩
        cases hAccepts
        rfl
  | cons w ws ih =>
      unfold sumEach
      rcases hFirst : service.write w s with ⟨found | k, u⟩
      · constructor
        · intro hFailed
          cases hFailed
        · rintro ⟨m, _, hAccepts⟩
          cases hAccepts with
          | cons hAccepted _ =>
              rw [hFirst] at hAccepted
              cases hAccepted
      · rw [ih]
        constructor
        · rintro ⟨m, rfl, hRest⟩
          exact ⟨k + m, Nat.add_assoc accepted k m,
            .cons hFirst hRest⟩
        · rintro ⟨m, rfl, hAccepts⟩
          cases hAccepts with
          | cons hAccepted hRest =>
              rw [hFirst] at hAccepted
              cases hAccepted
              exact ⟨_, (Nat.add_assoc accepted k _).symm, hRest⟩

/- The error is that of the first write that fails. -/
theorem sumEach_eq_error_iff
    {accepted : Nat} :
    sumEach service.write accepted ws s = (.error e, t) ↔
      ∃ made, service.FailsAfter ws s made e t := by
  induction ws generalizing accepted s with
  | nil =>
      constructor
      · intro hEnd
        cases hEnd
      · rintro ⟨made, hFails⟩
        exact (not_failsAfter_nil hFails).elim
  | cons w ws ih =>
      unfold sumEach
      rcases hFirst : service.write w s with ⟨found | k, u⟩
      · simp only [failsAfter_cons_of_error hFirst]
        constructor
        · intro hFailed
          cases hFailed
          exact ⟨[w], rfl, rfl, rfl⟩
        · rintro ⟨_, _, rfl, rfl⟩
          rfl
      · simp only [failsAfter_cons_of_ok hFirst]
        rw [ih]
        constructor
        · rintro ⟨rest, hRest⟩
          exact ⟨w :: rest, rest, rfl, hRest⟩
        · rintro ⟨_, rest, _, hRest⟩
          exact ⟨rest, hRest⟩

/- Items may be turned into writes before or while they are made. -/
theorem sumEach_map
    {ι κ : Type}
    (f : ι → κ)
    (one : κ → σ → Except RemoteError Nat × σ)
    (accepted : Nat)
    (items : List ι)
    (s : σ) :
    sumEach one accepted (items.map f) s =
      sumEach (fun item => one (f item)) accepted items s := by
  induction items generalizing accepted s with
  | nil => rfl
  | cons item items ih =>
      simp only [List.map_cons, sumEach, ih]

/- A batch is written as its writes are, one after the other. -/
theorem writeBatch_batching
    (service : Service σ)
    (batch : WriteBatch)
    (s : σ) :
    service.batching.writeBatch batch s =
      sumEach service.write 0 batch.writes s := by
  cases batch with
  | nodes type items =>
      exact (sumEach_map
        (fun item => .node ⟨type, item.1⟩ item.2)
        service.write 0 items s).symm
  | edges route items =>
      exact (sumEach_map
        (fun item => .edge ⟨route, item.1⟩ item.2)
        service.write 0 items s).symm

end Service

end GraphClient

------------------------------------------------------------
-- What Is Made
------------------------------------------------------------

namespace GraphClient

namespace Service

variable {σ : Type}
variable {service : Service σ}
variable {ws made : List Write}
variable {s t : σ}
variable {n : Nat}
variable {e : RemoteError}

/- A recorded write is the write, and is listed. -/
theorem write_recording
    (service : Service σ)
    (w : Write)
    (log : List Call)
    (s : σ) :
    service.recording.write w (log, s) =
      ((service.write w s).1,
        log ++ [w.call], (service.write w s).2) := by
  cases w <;> rfl

/- Writes that are accepted are listed in order. -/
theorem Accepts.recording
    (hAccepts : service.Accepts ws s n t)
    (log : List Call) :
    service.recording.Accepts ws (log, s) n
      (log ++ ws.map Write.call, t) := by
  induction hAccepts generalizing log with
  | nil s =>
      rw [List.map_nil, List.append_nil]
      exact .nil (log, s)
  | @cons w ws s t u n m hFirst hRest ih =>
      rw [List.map_cons, List.append_cons]
      apply Accepts.cons _ (ih (log ++ [w.call]))
      rw [write_recording, hFirst]

/- Of writes that fail those are listed that were made. -/
theorem FailsAfter.recording
    (hFails : service.FailsAfter ws s made e t)
    (log : List Call) :
    service.recording.FailsAfter ws (log, s) made e
      (log ++ made.map Write.call, t) := by
  rcases hFails with
    ⟨before, w, after, n, u, rfl, rfl, hBefore, hLast⟩
  refine ⟨before, w, after, n, _, rfl, rfl,
    hBefore.recording log, ?_⟩
  rw [write_recording, hLast, List.map_append, List.append_assoc]
  rfl

/-
  A service that takes batches as single writes answers a batch
  with the sum of the numbers accepted exactly when all writes
  are accepted, and has then made each of them, in order.  Else it
  answers with the error of the first one that fails: those
  before it have had their effect, it was the last to be made,
  and none after it was tried.
-/
theorem batching_applies_prefix
    (service : Service σ)
    (batch : WriteBatch)
    (s : σ) :
    (∀ n t,
      service.batching.writeBatch batch s = (.ok n, t) ↔
        service.Accepts batch.writes s n t) ∧
      (∀ e t,
        service.batching.writeBatch batch s = (.error e, t) ↔
          ∃ made, service.FailsAfter batch.writes s made e t) ∧
      ∀ log,
        (∀ n t,
          service.Accepts batch.writes s n t →
            service.recording.batching.writeBatch batch (log, s) =
              (.ok n, log ++ batch.writes.map Write.call, t)) ∧
          ∀ made e t,
            service.FailsAfter batch.writes s made e t →
              service.recording.batching.writeBatch batch
                  (log, s) =
                (.error e, log ++ made.map Write.call, t) := by
  refine ⟨?_, ?_, ?_⟩
  · intro n t
    rw [writeBatch_batching, sumEach_eq_ok_iff]
    simp only [Nat.zero_add, exists_eq_left']
  · intro e t
    rw [writeBatch_batching, sumEach_eq_error_iff]
  · intro log
    refine ⟨?_, ?_⟩
    · intro n t hAccepts
      rw [writeBatch_batching, sumEach_eq_ok_iff]
      exact ⟨n, (Nat.zero_add n).symm, hAccepts.recording log⟩
    · intro made e t hFails
      rw [writeBatch_batching, sumEach_eq_error_iff]
      exact ⟨made, hFails.recording log⟩

/- A service that writes down new ids, and refuses known ones. -/
def guestList : Service (List String) where
  answer := fun call guests =>
    match call with
    | .upsertNode node _ =>
        if node.id ∈ guests then
          (.error (.remote node.id), guests)
        else
          (.ok (1 : Nat), guests ++ [node.id])
    | _ => (.error .cancelled, guests)

/- The third of four guests has come before. -/
theorem batching_applies_prefix_guests :
    let batch := WriteBatch.nodes "Person"
      [("ann", .empty), ("bob", .empty), ("ann", .empty),
        ("cy", .empty)]
    guestList.batching.writeBatch batch [] =
        (.error (.remote "ann"), ["ann", "bob"]) ∧
      guestList.recording.batching.writeBatch batch ([], []) =
        (.error (.remote "ann"),
          [.upsertNode ⟨"Person", "ann"⟩ .empty,
            .upsertNode ⟨"Person", "bob"⟩ .empty,
            .upsertNode ⟨"Person", "ann"⟩ .empty],
          ["ann", "bob"]) := by
  intro batch
  rcases batching_applies_prefix guestList batch [] with
    ⟨_, hError, hRecorded⟩
  have hFails :
      guestList.FailsAfter batch.writes []
        (batch.writes.take 3) (.remote "ann") ["ann", "bob"] :=
    ⟨batch.writes.take 2, _, batch.writes.drop 3, 1 + (1 + 0),
      ["ann", "bob"], rfl, rfl,
      .cons rfl (.cons rfl (.nil _)), rfl⟩
  exact ⟨(hError _ _).mpr ⟨_, hFails⟩,
    (hRecorded []).2 _ _ _ hFails⟩

end Service

end GraphClient
