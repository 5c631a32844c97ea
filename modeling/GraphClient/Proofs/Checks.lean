/-
  Checks that follow each other.

  Key theorems include:
    * `GraphClient.Checks.bind_eq_ok_iff`
    * `GraphClient.Checks.bind_eq_error_iff`
    * `GraphClient.Checks.next_eq_ok_iff`

  A chain of checks stops at the first one that does not pass,
  and passes when all of them do.
-/

------------------------------------------------------------
-- Chains of Checks
------------------------------------------------------------

namespace GraphClient

namespace Checks

variable {ε α β : Type}

/- Two checks in a row pass when both do. -/
theorem bind_eq_ok_iff
    {check : Except ε α}
    {next : α → Except ε β}
    {b : β} :
    (check >>= next) = .ok b ↔
      ∃ a, check = .ok a ∧ next a = .ok b := by
  cases check with
  | ok a =>
      constructor
      · intro hNext
        exact ⟨a, rfl, hNext⟩
      · rintro ⟨a', hEq, hNext⟩
        cases hEq
        exact hNext
  | error e =>
      constructor
      · intro hNext
        cases hNext
      · rintro ⟨a, hEq, _⟩
        cases hEq

/- Of two checks in a row the first that does not pass is named. -/
theorem bind_eq_error_iff
    {check : Except ε α}
    {next : α → Except ε β}
    {e : ε} :
    (check >>= next) = .error e ↔
      check = .error e ∨
        ∃ a, check = .ok a ∧ next a = .error e := by
  cases check with
  | ok a =>
      constructor
      · intro hNext
        exact Or.inr ⟨a, rfl, hNext⟩
      · rintro (hCheck | ⟨a', hEq, hNext⟩)
        · cases hCheck
        · cases hEq
          exact hNext
  | error found =>
      constructor
      · intro hCheck
        cases hCheck
        exact Or.inl rfl
      · rintro (hCheck | ⟨a, hEq, _⟩)
        · cases hCheck
          rfl
        · cases hEq

/- A check without result and what follows pass when both do. -/
theorem next_eq_ok_iff
    {check : Except ε Unit}
    {next : Unit → Except ε β}
    {b : β} :
    (check >>= next) = .ok b ↔
      check = .ok () ∧ next () = .ok b := by
  rw [bind_eq_ok_iff]
  constructor
  · rintro ⟨⟨⟩, hCheck, hNext⟩
    exact ⟨hCheck, hNext⟩
  · rintro ⟨hCheck, hNext⟩
    exact ⟨(), hCheck, hNext⟩

/- A chain of checks ends with its result. -/
theorem pure_eq_ok_iff
    {a b : α} :
    (pure a : Except ε α) = .ok b ↔ b = a := by
  constructor
  · intro hEq
    cases hEq
    rfl
  · rintro rfl
    rfl

/- A check passes in the same way when its faults are renamed. -/
theorem mapError_eq_ok_iff
    {ε' : Type}
    {rename : ε → ε'}
    {check : Except ε α}
    {a : α} :
    check.mapError rename = .ok a ↔ check = .ok a := by
  cases check with
  | ok found =>
      constructor
      · intro hEq
        cases hEq
        rfl
      · intro hEq
        cases hEq
        rfl
  | error e =>
      constructor
      · intro hEq
        cases hEq
      · intro hEq
        cases hEq

/- A check passes when its result is there. -/
theorem eq_ok_of_toOption
    {check : Except ε α}
    {a : α}
    (hResult : check.toOption = some a) :
    check = .ok a := by
  cases check with
  | ok found => exact congrArg Except.ok (Option.some.inj hResult)
  | error e => cases hResult

/- What is there has itself as its result. -/
theorem toOption_pure
    (a : α) :
    (pure a : Except ε α).toOption = some a :=
  rfl

/- The result of two checks in a row, without their faults. -/
theorem toOption_bind
    (check : Except ε α)
    (next : α → Except ε β) :
    (check >>= next).toOption =
      check.toOption.bind (fun a => (next a).toOption) := by
  cases check <;> rfl

/- The result of a check does not depend on the names of faults. -/
theorem toOption_mapError
    {ε' : Type}
    (rename : ε → ε')
    (check : Except ε α) :
    (check.mapError rename).toOption = check.toOption := by
  cases check <;> rfl

/- Nothing follows a refusal. -/
@[simp]
theorem throw_bind
    (e : ε)
    (next : α → Except ε β) :
    (throw e >>= next) = .error e :=
  rfl

end Checks

end GraphClient
