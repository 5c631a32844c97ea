import GraphClient.Proofs.Checks
import GraphClient.Proofs.OrderedMap
import Mathlib.Data.List.Forall2
/-
  Checks that pass together, and checks of many things.

  Key definitions include:
    * `GraphClient.Checks.Alike`
    * `GraphClient.OrderedMap.traverse`
    * `GraphClient.Entries.gather?`

  Key theorems include:
    * `GraphClient.Checks.Alike.bind`
    * `GraphClient.Checks.alike_mapM`
    * `GraphClient.OrderedMap.traverse_eq_ok_iff`

  Two ways to check something are alike when they pass together,
  with the same result; they may name different faults.  A map
  is checked value by value, and keeps its keys in order.
-/

------------------------------------------------------------
-- Checks That Pass Together
------------------------------------------------------------

namespace GraphClient

namespace Checks

variable {ε ε' ε'' α α' β : Type}

/- Two checks pass together, with the same result. -/
def Alike
    (x : Except ε α)
    (y : Except ε' α) :
    Prop :=
  ∀ a, x = .ok a ↔ y = .ok a

/- A check is like itself. -/
theorem Alike.refl
    (x : Except ε α) :
    Alike x x :=
  fun _ => Iff.rfl

/- Likeness goes both ways. -/
theorem Alike.symm
    {x : Except ε α}
    {y : Except ε' α}
    (hAlike : Alike x y) :
    Alike y x :=
  fun a => (hAlike a).symm

/- What is like something is like what that is like. -/
theorem Alike.trans
    {x : Except ε α}
    {y : Except ε' α}
    {z : Except ε'' α}
    (hFirst : Alike x y)
    (hSecond : Alike y z) :
    Alike x z :=
  fun a => (hFirst a).trans (hSecond a)

/- Checks in a row are alike when their parts are. -/
theorem Alike.bind
    {x : Except ε α}
    {y : Except ε' α}
    {f : α → Except ε β}
    {g : α → Except ε' β}
    (hFirst : Alike x y)
    (hNext : ∀ a, Alike (f a) (g a)) :
    Alike (x >>= f) (y >>= g) := by
  intro b
  rw [bind_eq_ok_iff, bind_eq_ok_iff]
  exact exists_congr
    (fun a => and_congr (hFirst a) (hNext a b))

/- Checks are alike when they have the same result, if any. -/
theorem alike_iff
    {x : Except ε α}
    {y : Except ε' α} :
    Alike x y ↔ x.toOption = y.toOption := by
  unfold Alike
  cases x with
  | ok a =>
      cases y with
      | ok b => simp [Except.toOption]
      | error e => simp [Except.toOption]
  | error e =>
      cases y with
      | ok b => simp [Except.toOption]
      | error e => simp [Except.toOption]

/- Checks of many things are alike when each is. -/
theorem alike_mapM
    {f : α → Except ε β}
    {g : α' → Except ε' β}
    {xs : List α}
    {ys : List α'}
    (hEach : List.Forall₂ (fun x y => Alike (f x) (g y)) xs ys) :
    Alike (xs.mapM f) (ys.mapM g) := by
  induction hEach with
  | nil =>
      intro bs
      rw [List.mapM_nil, List.mapM_nil, pure_eq_ok_iff,
        pure_eq_ok_iff]
  | cons hFirst _ ih =>
      rw [List.mapM_cons, List.mapM_cons]
      apply hFirst.bind
      intro b
      apply ih.bind
      intro bs cs
      rw [pure_eq_ok_iff, pure_eq_ok_iff]

end Checks

end GraphClient

------------------------------------------------------------
-- Checks of Many Things
------------------------------------------------------------

namespace GraphClient

namespace Checks

variable {ε α α' β : Type}

/- Many checks pass when each of them does. -/
theorem mapM_eq_ok_iff
    {f : α → Except ε β}
    {xs : List α}
    {ys : List β} :
    xs.mapM f = .ok ys ↔
      List.Forall₂ (fun x y => f x = .ok y) xs ys := by
  induction xs generalizing ys with
  | nil =>
      rw [List.mapM_nil, pure_eq_ok_iff, List.forall₂_nil_left_iff]
  | cons x xs ih =>
      rw [List.mapM_cons, bind_eq_ok_iff, List.forall₂_cons_left_iff]
      constructor
      · rintro ⟨y, hFirst, hRest⟩
        rcases bind_eq_ok_iff.mp hRest with ⟨rest, hTail, hAll⟩
        exact ⟨y, rest, hFirst, ih.mp hTail, pure_eq_ok_iff.mp hAll⟩
      · rintro ⟨y, rest, hFirst, hTail, rfl⟩
        exact ⟨y, hFirst, bind_eq_ok_iff.mpr
          ⟨rest, ih.mpr hTail, pure_eq_ok_iff.mpr rfl⟩⟩

/- The results of many checks, without their faults. -/
theorem toOption_mapM
    {f : α → Except ε β}
    {g : α' → Option β}
    {xs : List α}
    {ys : List α'}
    (hEach :
      List.Forall₂ (fun x y => (f x).toOption = g y) xs ys) :
    (xs.mapM f).toOption = ys.mapM g := by
  induction hEach with
  | nil => rfl
  | cons hFirst _ ih =>
      rw [List.mapM_cons, List.mapM_cons, toOption_bind, hFirst]
      apply congrArg (Option.bind _)
      funext b
      rw [toOption_bind, ih]
      rfl

end Checks

/-
  The map of what is made of each value, if something is made of
  all of them: first position, last value of each key.
-/
def Entries.gather?
    {α β : Type}
    (item : α → Option β)
    (entries : Entries α) :
    Option (OrderedMap β) :=
  (entries.mapM (fun entry =>
    (item entry.2).map (fun value => (entry.1, value)))).map
      OrderedMap.ofList

/- Entries under the same keys in order, with related values. -/
def Entries.Related
    {α β : Type}
    (R : α → β → Prop)
    (xs : Entries α)
    (ys : Entries β) :
    Prop :=
  List.Forall₂ (fun x y => x.1 = y.1 ∧ R x.2 y.2) xs ys

/- Related entries have the same keys. -/
theorem Entries.Related.keys
    {α β : Type}
    {R : α → β → Prop}
    {xs : Entries α}
    {ys : Entries β}
    (hRelated : Related R xs ys) :
    ys.keys = xs.keys := by
  induction hRelated with
  | nil => rfl
  | cons hFirst _ ih => exact congrArg₂ List.cons hFirst.1.symm ih

namespace OrderedMap

variable {ε α β : Type}

/- Make something of each value, in order, if all of them pass. -/
def traverse
    (f : α → Except ε β)
    (m : OrderedMap α) :
    Except ε (OrderedMap β) := do
  let entries ← m.entries.mapM (fun entry => do
    let value ← f entry.2
    return (entry.1, value))
  return ofList entries

/- All values pass when each of them does, under its own key. -/
theorem traverse_eq_ok_iff
    {f : α → Except ε β}
    {m : OrderedMap α}
    {n : OrderedMap β} :
    m.traverse f = .ok n ↔
      Entries.Related (fun a b => f a = .ok b)
        m.entries n.entries := by
  have hMapM (entries : Entries β) :
      m.entries.mapM (fun entry => do
          let value ← f entry.2
          return (entry.1, value)) =
        .ok entries ↔
      Entries.Related (fun a b => f a = .ok b) m.entries entries := by
    have hEntry (x : String × α) (y : String × β) :
        (do
          let value ← f x.2
          return (x.1, value)) = Except.ok y ↔
          x.1 = y.1 ∧ f x.2 = .ok y.2 := by
      rw [Checks.bind_eq_ok_iff]
      constructor
      · rintro ⟨value, hValue, hPair⟩
        rw [Checks.pure_eq_ok_iff.mp hPair]
        exact ⟨rfl, hValue⟩
      · rintro ⟨hKey, hValue⟩
        refine ⟨y.2, hValue, ?_⟩
        rw [hKey]
        rfl
    rw [Checks.mapM_eq_ok_iff]
    simp only [hEntry]
    rfl
  unfold traverse
  rw [Checks.bind_eq_ok_iff]
  constructor
  · rintro ⟨entries, hEntries, hMap⟩
    have hRelated := (hMapM entries).mp hEntries
    have hNodup : (Entries.keys entries).Nodup := by
      rw [hRelated.keys]
      exact m.nodup
    rw [Checks.pure_eq_ok_iff.mp hMap, ofList_entries ⟨entries, hNodup⟩]
    exact hRelated
  · intro hRelated
    refine ⟨n.entries, (hMapM n.entries).mpr hRelated, ?_⟩
    rw [ofList_entries]
    rfl

/- There is nothing to check in an empty map. -/
theorem traverse_empty
    (f : α → Except ε β) :
    empty.traverse f = .ok empty :=
  traverse_eq_ok_iff.mpr List.Forall₂.nil

/- A map of what passes is the map of what it came from. -/
theorem map_of_traverse_eq_ok
    {f : α → Except ε β}
    {g : β → α}
    (hBack : ∀ a b, f a = .ok b → g b = a)
    {m : OrderedMap α}
    {n : OrderedMap β}
    (hTraverse : m.traverse f = .ok n) :
    n.map g = m := by
  have hRelated := traverse_eq_ok_iff.mp hTraverse
  apply ext
  change n.entries.map (fun entry => (entry.1, g entry.2)) = m.entries
  generalize m.entries = xs at hRelated
  generalize n.entries = ys at hRelated
  induction hRelated with
  | nil => rfl
  | cons hFirst _ ih =>
      rw [List.map_cons, ih, ← hFirst.1, hBack _ _ hFirst.2]

/- What each value came from passes, if it is what it came from. -/
theorem traverse_map
    {f : α → Except ε β}
    {g : β → α}
    (hAgain : ∀ b, f (g b) = .ok b)
    (n : OrderedMap β) :
    (n.map g).traverse f = .ok n := by
  rw [traverse_eq_ok_iff]
  change Entries.Related _
    (n.entries.map (fun entry => (entry.1, g entry.2))) n.entries
  apply List.forall₂_map_left_iff.mpr
  apply List.forall₂_same.mpr
  exact fun entry _ => ⟨rfl, hAgain entry.2⟩

/- Values that pass unchanged leave the map as it is. -/
theorem traverse_same
    {f : α → Except ε α}
    {m : OrderedMap α}
    (hSame : ∀ entry ∈ m.entries, f entry.2 = .ok entry.2) :
    m.traverse f = .ok m := by
  rw [traverse_eq_ok_iff]
  exact List.forall₂_same.mpr
    (fun entry hMem => ⟨rfl, hSame entry hMem⟩)

/- Nothing else comes of values that can only pass unchanged. -/
theorem eq_of_traverse_eq_ok
    {f : α → Except ε α}
    (hSame : ∀ a b, f a = .ok b → b = a)
    {m n : OrderedMap α}
    (hTraverse : m.traverse f = .ok n) :
    n = m := by
  rw [← map_of_traverse_eq_ok hSame hTraverse]
  exact (map_eq_self (fun _ _ => rfl)).symm

/- All values pass when each of them does. -/
theorem exists_traverse_eq_ok_iff
    {f : α → Except ε β}
    {m : OrderedMap α} :
    (∃ n, m.traverse f = .ok n) ↔
      ∀ entry ∈ m.entries, ∃ b, f entry.2 = .ok b := by
  constructor
  · rintro ⟨n, hTraverse⟩
    have hRelated := traverse_eq_ok_iff.mp hTraverse
    generalize m.entries = xs at hRelated ⊢
    generalize n.entries = ys at hRelated
    induction hRelated with
    | nil => exact fun _ hMem => by cases hMem
    | cons hFirst _ ih =>
        exact List.forall_mem_cons.mpr ⟨⟨_, hFirst.2⟩, ih⟩
  · intro hEach
    have hEntries :
        ∃ ys,
          Entries.Related (fun a b => f a = .ok b) m.entries ys := by
      generalize m.entries = xs at hEach ⊢
      induction xs with
      | nil => exact ⟨[], .nil⟩
      | cons x xs ih =>
          rcases List.forall_mem_cons.mp hEach with ⟨⟨b, hb⟩, hRest⟩
          rcases ih hRest with ⟨ys, hRelated⟩
          exact ⟨(x.1, b) :: ys, .cons ⟨rfl, hb⟩ hRelated⟩
    rcases hEntries with ⟨ys, hRelated⟩
    have hNodup : (Entries.keys ys).Nodup := by
      rw [hRelated.keys]
      exact m.nodup
    exact ⟨⟨ys, hNodup⟩, traverse_eq_ok_iff.mpr hRelated⟩

end OrderedMap

end GraphClient
