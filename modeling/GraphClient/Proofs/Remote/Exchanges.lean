import GraphClient.Graph.Basic
/-
  What a conversation comes to, whatever it is answered.

  Key definitions include:
    * `GraphClient.Exchange`
    * `GraphClient.Conversation.exchanges`
    * `GraphClient.Conversation.Ensures`
    * `GraphClient.UpToFailure`

  Key theorems include:
    * `GraphClient.Conversation.Ensures.run`
    * `GraphClient.Conversation.ensures_andThen`
    * `GraphClient.Operation.ensures_require_of_ok`

  An exchange is a call with its outcome.  What holds of the
  result and the exchanges of a conversation for every outcome
  of every call holds of its run with every service, in every
  state.
-/

------------------------------------------------------------
-- Exchanges
------------------------------------------------------------

namespace GraphClient

/- Whether something that may fail has failed. -/
def Fails
    {ε α : Type}
    (outcome : Except ε α) :
    Prop :=
  ∃ e, outcome = .error e

/- A call with what came of it. -/
structure Exchange where
  call : Call
  outcome : call.Outcome

namespace Exchange

/- Whether the call had no answer. -/
def Failed
    (x : Exchange) :
    Prop :=
  Fails x.outcome

/- The number that is answered by answers of a kind. -/
def countOf? :
    (kind : AnswerKind) → kind.Answer → Option Nat
| .count, n => some n
| .response, _ => none
| .records, _ => none
| .text, _ => none

/- The number with which the call was answered. -/
def count?
    (x : Exchange) :
    Option Nat :=
  match x.outcome with
  | .ok answer => countOf? x.call.kind answer
  | .error _ => none

/- The sum of the numbers with which calls were answered. -/
def total : List Exchange → Nat
| [] => 0
| x :: xs => x.count?.getD 0 + total xs

/- The sum over two parts is that of their sums. -/
theorem total_append
    (xs ys : List Exchange) :
    total (xs ++ ys) = total xs + total ys := by
  induction xs with
  | nil => simp [total]
  | cons x xs ih => simp [total, ih, Nat.add_assoc]

end Exchange

/-
  The exchanges when calls are made one after the other up to
  and including the first that fails.
-/
inductive UpToFailure : List Call → List Exchange → Prop
| nil : UpToFailure [] []
| stop (call : Call) (e : RemoteError) (calls : List Call) :
    UpToFailure (call :: calls) [⟨call, .error e⟩]
| next
    (call : Call) (answer : call.Answer)
    {calls : List Call} {xs : List Exchange}
    (hRest : UpToFailure calls xs) :
    UpToFailure (call :: calls) (⟨call, .ok answer⟩ :: xs)

end GraphClient

------------------------------------------------------------
-- Runs
------------------------------------------------------------

namespace GraphClient

namespace Conversation

variable {σ α β : Type}

/- The exchanges of a conversation with a service. -/
def exchanges
    (service : Service σ) :
    Conversation α → σ → List Exchange
| .done _, _ => []
| .ask call next, s =>
    let (o, s) := service.answer call s
    ⟨call, o⟩ :: exchanges service (next o) s

/- The calls of a conversation are those of its exchanges. -/
theorem calls_eq_map_exchanges
    (service : Service σ)
    (c : Conversation α)
    (s : σ) :
    c.calls service s = (c.exchanges service s).map Exchange.call := by
  induction c generalizing s with
  | done a => rfl
  | ask call next ih =>
      exact congrArg (List.cons call)
        (ih (service.answer call s).1 (service.answer call s).2)

/- Without an exchange the state is as it was. -/
theorem run_of_exchanges_eq_nil
    {service : Service σ}
    {c : Conversation α}
    {s : σ}
    (hNone : c.exchanges service s = []) :
    (c.run service s).2 = s := by
  cases c with
  | done a => rfl
  | ask call next => cases hNone

/-
  Whatever the calls come to, the result and the exchanges of a
  conversation have a property.
-/
def Ensures :
    Conversation α → (α → List Exchange → Prop) → Prop
| .done a, P => P a []
| .ask call next, P =>
    ∀ o, Ensures (next o) (fun a xs => P a (⟨call, o⟩ :: xs))

variable {P Q : α → List Exchange → Prop}

/- What is ensured holds of every run. -/
theorem Ensures.run
    {c : Conversation α}
    (hEnsures : c.Ensures P)
    (service : Service σ)
    (s : σ) :
    P (c.run service s).1 (c.exchanges service s) := by
  induction c generalizing P s with
  | done a => exact hEnsures
  | ask call next ih =>
      exact ih _ (hEnsures (service.answer call s).1)
        (service.answer call s).2

/- What follows from what is ensured is ensured. -/
theorem Ensures.mono
    {c : Conversation α}
    (hEnsures : c.Ensures P)
    (hWeaker : ∀ a xs, P a xs → Q a xs) :
    c.Ensures Q := by
  induction c generalizing P Q with
  | done a => exact hWeaker a [] hEnsures
  | ask call next ih =>
      intro o
      exact ih o (hEnsures o)
        (fun a xs hRest => hWeaker a (⟨call, o⟩ :: xs) hRest)

/- What follows a conversation adds its exchanges at the end. -/
theorem ensures_andThen
    {c : Conversation α}
    {next : α → Conversation β}
    {R : β → List Exchange → Prop}
    (hEnsures :
      c.Ensures (fun a xs =>
        (next a).Ensures (fun b ys => R b (xs ++ ys)))) :
    (c.andThen next).Ensures R := by
  induction c generalizing R with
  | done a => exact hEnsures
  | ask call rest ih =>
      intro o
      exact ih o (hEnsures o)

/- What is made of a result adds no exchanges. -/
theorem ensures_map
    {c : Conversation α}
    {f : α → β}
    {R : β → List Exchange → Prop}
    (hEnsures : c.Ensures (fun a xs => R (f a) xs)) :
    (c.map f).Ensures R := by
  apply ensures_andThen
  apply hEnsures.mono
  intro a xs hResult
  change R (f a) (xs ++ [])
  rw [List.append_nil]
  exact hResult

end Conversation

end GraphClient

------------------------------------------------------------
-- Operations
------------------------------------------------------------

namespace GraphClient

namespace Operation

variable {α β ε : Type}
variable {P : Except GraphError α → List Exchange → Prop}

/- A check that passes leads on. -/
theorem ensures_require_of_ok
    {cause : ε → GraphError}
    {check : Except ε β}
    {next : β → Operation α}
    {b : β}
    (hCheck : check = .ok b)
    (hNext : (next b).Ensures P) :
    (require cause check next).Ensures P := by
  subst hCheck
  exact hNext

end Operation

end GraphClient
