import Mathlib.Tactic.Tauto
/-
  What checks require, in order.

  Key definitions include:
    * `GraphClient.Requirement`
    * `GraphClient.Requirement.FirstUnmet`
    * `GraphClient.Requirement.Decides`

  Key theorems include:
    * `GraphClient.Requirement.Decides.bind`
    * `GraphClient.Requirement.Decides.eq_ok_iff`
    * `GraphClient.Requirement.Decides.eq_error_iff`

  A check goes through a list of requirements.  It passes when
  all of them are met, and otherwise names the first one that is
  not, whatever becomes of those after it.
-/

------------------------------------------------------------
-- Requirements
------------------------------------------------------------

namespace GraphClient

/- Something that is required, and the fault that it is not met. -/
structure Requirement (ε : Type) where
  met : Prop
  error : ε

namespace Requirement

variable {ε α β : Type}

/- All requirements are met. -/
def AllMet
    (requirements : List (Requirement ε)) :
    Prop :=
  ∀ r ∈ requirements, r.met

/- The first requirement that is not met has some fault. -/
def FirstUnmet
    (requirements : List (Requirement ε))
    (e : ε) :
    Prop :=
  ∃ before r after,
    requirements = before ++ r :: after ∧
      AllMet before ∧ ¬ r.met ∧ r.error = e

/-
  A check gives a result when all requirements are met, and the
  fault of the first one that is not met otherwise.
-/
structure Decides
    (requirements : List (Requirement ε))
    (Gives : α → Prop)
    (check : Except ε α) :
    Prop where
  accepts : AllMet requirements → ∃ a, check = .ok a ∧ Gives a
  refuses : ∀ e, FirstUnmet requirements e → check = .error e

end Requirement

end GraphClient

------------------------------------------------------------
-- Lists of Requirements
------------------------------------------------------------

namespace GraphClient

namespace Requirement

variable {ε : Type}

/- Nothing is required by no requirement. -/
theorem allMet_nil :
    AllMet ([] : List (Requirement ε)) :=
  fun _ hMem => absurd hMem List.not_mem_nil

/- The requirements of two lists are met when those of each are. -/
theorem allMet_append
    {requirements others : List (Requirement ε)} :
    AllMet (requirements ++ others) ↔
      AllMet requirements ∧ AllMet others :=
  List.forall_mem_append

/- The first unmet one is the first one, or follows it. -/
theorem firstUnmet_cons
    {r : Requirement ε}
    {rest : List (Requirement ε)}
    {e : ε} :
    FirstUnmet (r :: rest) e ↔
      (¬ r.met ∧ r.error = e) ∨ (r.met ∧ FirstUnmet rest e) := by
  constructor
  · rintro ⟨before, u, after, hSplit, hMet, hUnmet, hError⟩
    cases before with
    | nil =>
        rcases List.cons.inj hSplit with ⟨rfl, -⟩
        exact Or.inl ⟨hUnmet, hError⟩
    | cons b before =>
        rcases List.cons.inj hSplit with ⟨rfl, hRest⟩
        rcases List.forall_mem_cons.mp hMet with ⟨hHead, hMet⟩
        exact Or.inr
          ⟨hHead, before, u, after, hRest, hMet, hUnmet, hError⟩
  · rintro (⟨hUnmet, hError⟩ |
      ⟨hHead, before, u, after, rfl, hMet, hUnmet, hError⟩)
    · exact ⟨[], r, rest, rfl, allMet_nil, hUnmet, hError⟩
    · exact ⟨r :: before, u, after, rfl,
        List.forall_mem_cons.mpr ⟨hHead, hMet⟩, hUnmet, hError⟩

/- Without requirements none is unmet. -/
theorem not_firstUnmet_nil
    (e : ε) :
    ¬ FirstUnmet [] e := by
  rintro ⟨before, r, after, hSplit, -⟩
  cases before <;> cases hSplit

/- The first unmet one is in the first list that has one. -/
theorem firstUnmet_append
    {requirements others : List (Requirement ε)}
    {e : ε} :
    FirstUnmet (requirements ++ others) e ↔
      FirstUnmet requirements e ∨
        (AllMet requirements ∧ FirstUnmet others e) := by
  induction requirements with
  | nil => simp [not_firstUnmet_nil, allMet_nil]
  | cons r rest ih =>
      rw [List.cons_append, firstUnmet_cons, firstUnmet_cons, ih]
      simp only [AllMet, List.forall_mem_cons]
      tauto

/- Either all requirements are met or one is the first unmet one. -/
theorem allMet_or_exists_firstUnmet
    (requirements : List (Requirement ε)) :
    AllMet requirements ∨ ∃ e, FirstUnmet requirements e := by
  induction requirements with
  | nil => exact Or.inl allMet_nil
  | cons r rest ih =>
      by_cases hMet : r.met
      · rcases ih with hAll | ⟨e, hFirst⟩
        · exact Or.inl (List.forall_mem_cons.mpr ⟨hMet, hAll⟩)
        · exact Or.inr
            ⟨e, firstUnmet_cons.mpr (Or.inr ⟨hMet, hFirst⟩)⟩
      · exact Or.inr
          ⟨r.error, firstUnmet_cons.mpr (Or.inl ⟨hMet, rfl⟩)⟩

/- Of a list of subjects, the first one that fails is unmet. -/
theorem firstUnmet_map
    {α : Type}
    (f : α → Requirement ε)
    {before after : List α}
    {a : α}
    (hBefore : ∀ b ∈ before, (f b).met)
    (hUnmet : ¬ (f a).met) :
    FirstUnmet ((before ++ a :: after).map f) (f a).error := by
  refine ⟨before.map f, f a, after.map f, ?_, ?_, hUnmet, rfl⟩
  · rw [List.map_append, List.map_cons]
  · exact List.forall_mem_map.mpr hBefore

end Requirement

end GraphClient

------------------------------------------------------------
-- Checks of Requirements
------------------------------------------------------------

namespace GraphClient

namespace Requirement

namespace Decides

variable {ε α β : Type}
variable {requirements rest : List (Requirement ε)}
variable {Gives : α → Prop}
variable {check : Except ε α}

/- A check that requires nothing gives its result. -/
theorem nil
    {a : α}
    (hCheck : check = .ok a)
    (hGives : Gives a) :
    Decides [] Gives check where
  accepts _ := ⟨a, hCheck, hGives⟩
  refuses e hFirst := absurd hFirst (not_firstUnmet_nil e)

/- A check that requires something first is decided by the rest. -/
theorem cons
    {met : Prop}
    {e : ε}
    (hUnmet : ¬ met → check = .error e)
    (hMet : met → Decides rest Gives check) :
    Decides (⟨met, e⟩ :: rest) Gives check where
  accepts hAll := by
    rcases List.forall_mem_cons.mp hAll with ⟨hHead, hRest⟩
    exact (hMet hHead).accepts hRest
  refuses found hFirst := by
    rcases firstUnmet_cons.mp hFirst with
      ⟨hHead, rfl⟩ | ⟨hHead, hRest⟩
    · exact hUnmet hHead
    · exact (hMet hHead).refuses found hRest

/- What is known of the result may be said in other words. -/
theorem imp
    {Then : α → Prop}
    (hCheck : Decides requirements Gives check)
    (hThen : ∀ a, Gives a → Then a) :
    Decides requirements Then check where
  accepts hAll := by
    rcases hCheck.accepts hAll with ⟨a, hOk, hGives⟩
    exact ⟨a, hOk, hThen a hGives⟩
  refuses := hCheck.refuses

/- Checks in a row require what each of them requires, in a row. -/
theorem bind
    {Then : β → Prop}
    {next : α → Except ε β}
    (hCheck : Decides requirements Gives check)
    (hNext : ∀ a, Gives a → Decides rest Then (next a)) :
    Decides (requirements ++ rest) Then (check >>= next) where
  accepts hAll := by
    rcases allMet_append.mp hAll with ⟨hFirst, hRest⟩
    rcases hCheck.accepts hFirst with ⟨a, hOk, hGives⟩
    rw [hOk]
    exact (hNext a hGives).accepts hRest
  refuses e hUnmet := by
    rcases firstUnmet_append.mp hUnmet with
      hFirst | ⟨hAll, hRest⟩
    · rw [hCheck.refuses e hFirst]
      rfl
    · rcases hCheck.accepts hAll with ⟨a, hOk, hGives⟩
      rw [hOk]
      exact (hNext a hGives).refuses e hRest

/- What cannot fail requires nothing more. -/
theorem map
    {Then : β → Prop}
    {next : α → Except ε β}
    {f : α → β}
    (hCheck : Decides requirements Gives check)
    (hNext : ∀ a, next a = .ok (f a))
    (hThen : ∀ a, Gives a → Then (f a)) :
    Decides requirements Then (check >>= next) := by
  rw [← List.append_nil requirements]
  exact hCheck.bind fun a hGives => .nil (hNext a) (hThen a hGives)

/- A result is given exactly when all requirements are met. -/
theorem exists_eq_ok_iff
    (hCheck : Decides requirements Gives check) :
    (∃ a, check = .ok a) ↔ AllMet requirements := by
  constructor
  · rintro ⟨a, hOk⟩
    rcases allMet_or_exists_firstUnmet requirements with
      hAll | ⟨e, hFirst⟩
    · exact hAll
    · rw [hCheck.refuses e hFirst] at hOk
      cases hOk
  · intro hAll
    rcases hCheck.accepts hAll with ⟨a, hOk, -⟩
    exact ⟨a, hOk⟩

/- A check without a result passes when all requirements are met. -/
theorem passes_iff
    {Gives : Unit → Prop}
    {check : Except ε Unit}
    (hCheck : Decides requirements Gives check) :
    check = .ok () ↔ AllMet requirements := by
  rw [← hCheck.exists_eq_ok_iff]
  exact ⟨fun hOk => ⟨(), hOk⟩, fun ⟨_, hOk⟩ => hOk⟩

/- The result is the one that is described, if only one is. -/
theorem eq_ok_iff
    (hCheck : Decides requirements Gives check)
    (hUnique : ∀ {a b}, Gives a → Gives b → a = b)
    {a : α} :
    check = .ok a ↔ AllMet requirements ∧ Gives a := by
  constructor
  · intro hOk
    have hAll := hCheck.exists_eq_ok_iff.mp ⟨a, hOk⟩
    rcases hCheck.accepts hAll with ⟨b, hOther, hGives⟩
    rw [hOk] at hOther
    cases hOther
    exact ⟨hAll, hGives⟩
  · rintro ⟨hAll, hGives⟩
    rcases hCheck.accepts hAll with ⟨b, hOk, hOther⟩
    rw [hUnique hGives hOther]
    exact hOk

/- A fault is named exactly when it is that of the first unmet one. -/
theorem eq_error_iff
    (hCheck : Decides requirements Gives check)
    {e : ε} :
    check = .error e ↔ FirstUnmet requirements e := by
  constructor
  · intro hError
    rcases allMet_or_exists_firstUnmet requirements with
      hAll | ⟨found, hFirst⟩
    · rcases hCheck.accepts hAll with ⟨a, hOk, -⟩
      rw [hError] at hOk
      cases hOk
    · rw [hCheck.refuses found hFirst] at hError
      cases hError
      exact hFirst
  · exact hCheck.refuses e

end Decides

end Requirement

end GraphClient
