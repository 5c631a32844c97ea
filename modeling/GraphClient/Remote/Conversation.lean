import GraphClient.Remote.Call
/-
  Conversations with a remote graph.

  Key definitions include:
    * `GraphClient.Conversation`
    * `GraphClient.Service`
    * `GraphClient.Conversation.run`
    * `GraphClient.Conversation.calls`

  Key theorems include:
    * `GraphClient.Conversation.run_andThen`
    * `GraphClient.Conversation.calls_andThen`

  A conversation makes one call after the other, each one
  depending on the outcomes before it, and ends with a result.
  It says nothing about who answers; a service does, and may
  change its state with every call.
-/

------------------------------------------------------------
-- Conversations
------------------------------------------------------------

namespace GraphClient

/- Calls and what is made of their outcomes. -/
inductive Conversation (α : Type) : Type
| done (result : α)
| ask (call : Call) (next : call.Outcome → Conversation α)

namespace Conversation

variable {α β : Type}

/- Go on with the result of a conversation. -/
def andThen
    (next : α → Conversation β) :
    Conversation α → Conversation β
| .done a => next a
| .ask call rest => .ask call (fun o => andThen next (rest o))

/- Make something of the result of a conversation. -/
def map
    (f : α → β)
    (c : Conversation α) :
    Conversation β :=
  c.andThen (fun a => .done (f a))

/- Make a call, and forget why it failed. -/
def attempt
    (call : Call) :
    Conversation (Option call.Answer) :=
  .ask call (fun o => .done o.toOption)

end Conversation

end GraphClient

------------------------------------------------------------
-- Services
------------------------------------------------------------

namespace GraphClient

/- Who answers calls, given and changing a state. -/
structure Service (σ : Type) where
  answer : (call : Call) → σ → call.Outcome × σ

namespace Conversation

variable {σ α : Type}

/- Have a conversation with a service. -/
def run
    (service : Service σ) :
    Conversation α → σ → α × σ
| .done a, s => (a, s)
| .ask call next, s =>
    let (o, s) := service.answer call s
    run service (next o) s

/- The calls of a conversation with a service. -/
def calls
    (service : Service σ) :
    Conversation α → σ → List Call
| .done _, _ => []
| .ask call next, s =>
    let (o, s) := service.answer call s
    call :: calls service (next o) s

end Conversation

end GraphClient

------------------------------------------------------------
-- Sequencing
------------------------------------------------------------

namespace GraphClient

namespace Conversation

variable {σ α β : Type}

/- What follows runs in the state that is left to it. -/
theorem run_andThen
    (service : Service σ)
    (next : α → Conversation β)
    (c : Conversation α)
    (s : σ) :
    (c.andThen next).run service s =
      (next (c.run service s).1).run service
        (c.run service s).2 := by
  induction c generalizing s with
  | done a =>
      rfl
  | ask call rest ih =>
      exact ih (service.answer call s).1 (service.answer call s).2

/- The calls of what follows come after those before it. -/
theorem calls_andThen
    (service : Service σ)
    (next : α → Conversation β)
    (c : Conversation α)
    (s : σ) :
    (c.andThen next).calls service s =
      c.calls service s ++
        (next (c.run service s).1).calls service
          (c.run service s).2 := by
  induction c generalizing s with
  | done a =>
      rfl
  | ask call rest ih =>
      have hRest :=
        ih (service.answer call s).1 (service.answer call s).2
      simp [andThen, calls, run, hRest]

end Conversation

end GraphClient
