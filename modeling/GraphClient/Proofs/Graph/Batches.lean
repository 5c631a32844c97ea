import GraphClient.Graph.Batch
import GraphClient.Proofs.Checks
/-
  What a batch sends.

  Key definitions include:
    * `GraphClient.Batch.merged`
    * `GraphClient.Batch.checkAll`

  Key theorems include:
    * `GraphClient.Batch.prepare_eq`
    * `GraphClient.Batch.prepare_eq_ok_iff`
    * `GraphClient.Batch.exists_of_prepare_eq_error`

  A batch that is accepted sends every item in the order given,
  each with the common values written over its own.  These merged
  items are what is checked, one after the other.
-/

------------------------------------------------------------
-- Items
------------------------------------------------------------

namespace GraphClient

namespace Batch

variable {κ : Type}

/- The items of a batch with common values over their own. -/
def merged
    (common : Bag)
    (items : List (κ × Bag)) :
    List (κ × Bag) :=
  items.map (fun item => (item.1, item.2.override common))

/- Check items in order. -/
def checkAll
    (check : Bag → Except SchemaError Unit) :
    List (κ × Bag) → Except SchemaError Unit
| [] => .ok ()
| item :: rest => do
    check item.2
    checkAll check rest

/- A batch is prepared by checking its merged items in order. -/
theorem prepare_eq
    (check : Bag → Except SchemaError Unit)
    (common : Bag)
    (items : List (κ × Bag)) :
    prepare check common items =
      (checkAll check (merged common items)).map
        (fun _ => merged common items) := by
  induction items with
  | nil => rfl
  | cons item rest ih =>
      rcases item with ⟨key, own⟩
      change (check (own.override common) >>= fun _ =>
        prepare check common rest >>= fun found =>
          pure ((key, own.override common) :: found)) =
        (check (own.override common) >>= fun _ =>
          checkAll check (merged common rest)).map _
      rw [ih]
      cases check (own.override common) with
      | error e => rfl
      | ok u =>
          cases checkAll check (merged common rest) <;> rfl

/- Items pass when each of them does. -/
theorem checkAll_eq_ok_iff
    {check : Bag → Except SchemaError Unit}
    {items : List (κ × Bag)} :
    checkAll check items = .ok () ↔
      ∀ item ∈ items, check item.2 = .ok () := by
  induction items with
  | nil => simp [checkAll]
  | cons item rest ih =>
      rw [checkAll, Checks.next_eq_ok_iff, ih, List.forall_mem_cons]

/- Items are refused only as some values are. -/
theorem exists_of_checkAll_eq_error
    {check : Bag → Except SchemaError Unit}
    {items : List (κ × Bag)}
    {e : SchemaError}
    (hCheck : checkAll check items = .error e) :
    ∃ bag, check bag = .error e := by
  induction items with
  | nil => cases hCheck
  | cons item rest ih =>
      rcases Checks.bind_eq_error_iff.mp hCheck with
        hItem | ⟨_, _, hRest⟩
      · exact ⟨item.2, hItem⟩
      · exact ih hRest

/- A batch passes when each of its merged items does. -/
theorem prepare_eq_ok_iff
    {check : Bag → Except SchemaError Unit}
    {common : Bag}
    {items batch : List (κ × Bag)} :
    prepare check common items = .ok batch ↔
      batch = merged common items ∧
        ∀ item ∈ merged common items, check item.2 = .ok () := by
  rw [prepare_eq, ← checkAll_eq_ok_iff]
  cases checkAll check (merged common items) <;>
    simp [Except.map, eq_comm]

/- A batch is refused only as some values are. -/
theorem exists_of_prepare_eq_error
    {check : Bag → Except SchemaError Unit}
    {common : Bag}
    {items : List (κ × Bag)}
    {e : SchemaError}
    (hPrepare : prepare check common items = .error e) :
    ∃ bag, check bag = .error e := by
  rw [prepare_eq] at hPrepare
  cases hCheck : checkAll check (merged common items) with
  | ok u =>
      rw [hCheck] at hPrepare
      cases hPrepare
  | error found =>
      rw [hCheck] at hPrepare
      cases hPrepare
      exact exists_of_checkAll_eq_error hCheck

end Batch

end GraphClient
