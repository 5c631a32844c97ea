import GraphClient.Graph.Basic
/-
  What a conversation can ask, and what a run of it keeps.

  Key definitions include:
    * `GraphClient.Conversation.Asks`

  Key theorems include:
    * `GraphClient.Conversation.run_keeps`
    * `GraphClient.Operation.require_of_ok`
    * `GraphClient.Operation.run_always`

  Which calls a conversation makes depends on the answers it
  gets.  A condition that every call meets, whatever the answers
  are, can be checked on the conversation alone; what each such
  call keeps, the whole run keeps.
-/

------------------------------------------------------------
-- Conditions on Calls
------------------------------------------------------------

namespace GraphClient

namespace Conversation

variable {σ α β : Type}
variable {p : Call → Prop}

/- Every call that can come up meets a condition. -/
def Asks
    (p : Call → Prop) :
    Conversation α → Prop
| .done _ => True
| .ask call next => p call ∧ ∀ o, Asks p (next o)

/- What follows a conversation adds its own calls only. -/
theorem asks_andThen
    {next : α → Conversation β}
    {c : Conversation α}
    (hFirst : c.Asks p)
    (hNext : ∀ a, (next a).Asks p) :
    (c.andThen next).Asks p := by
  induction c with
  | done a =>
      exact hNext a
  | ask call rest ih =>
      exact ⟨hFirst.1, fun o => ih o (hFirst.2 o)⟩

/- Making something of a result adds no calls. -/
theorem asks_map
    {f : α → β}
    {c : Conversation α}
    (hAsks : c.Asks p) :
    (c.map f).Asks p :=
  asks_andThen hAsks (fun _ => trivial)

/- An attempt is one call. -/
theorem asks_attempt
    {call : Call}
    (hCall : p call) :
    (attempt call).Asks p :=
  ⟨hCall, fun _ => trivial⟩

/- What no call of a conversation breaks holds after its run. -/
theorem run_keeps
    (service : Service σ)
    {inv : σ → Prop}
    (hKeeps :
      ∀ call s, p call → inv s →
        inv (service.answer call s).2)
    {c : Conversation α}
    (hAsks : c.Asks p)
    {s : σ}
    (hInv : inv s) :
    inv (c.run service s).2 := by
  induction c generalizing s with
  | done a =>
      exact hInv
  | ask call rest ih =>
      have hCall : inv (service.answer call s).2 :=
        hKeeps call s hAsks.1 hInv
      exact ih _ (hAsks.2 _) hCall

end Conversation

end GraphClient

------------------------------------------------------------
-- Operations
------------------------------------------------------------

namespace GraphClient

namespace Operation

variable {σ α β ε : Type}
variable {p : Call → Prop}

/- A check makes no calls. -/
theorem asks_require
    {cause : ε → GraphError}
    {check : Except ε β}
    {next : β → Operation α}
    (hNext : ∀ b, check = .ok b → (next b).Asks p) :
    (require cause check next).Asks p := by
  cases check with
  | ok b => exact hNext b rfl
  | error e => trivial

/- A check that passes leads on. -/
theorem require_of_ok
    {cause : ε → GraphError}
    {check : Except ε β}
    {next : β → Operation α}
    {b : β}
    (hCheck : check = .ok b) :
    require cause check next = next b := by
  subst hCheck
  rfl

/- A conversation that always has a result runs as it is. -/
theorem run_always
    (service : Service σ)
    (c : Conversation α)
    (s : σ) :
    (always c).run service s =
      (.ok (c.run service s).1, (c.run service s).2) :=
  Conversation.run_andThen service _ c s

end Operation

end GraphClient
