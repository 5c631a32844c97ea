import GraphClient.Proofs.Schema.Rereading
import GraphClient.Proofs.Schema.Values
import GraphClient.Query.Parameter
import Mathlib.Data.List.Forall2
/-
  The two encoders of attribute values.

  Key definitions include:
    * `GraphClient.Value.Survives`

  Key theorems include:
    * `GraphClient.Value.held_written`
    * `GraphClient.Bag.held_toJson`
    * `GraphClient.Bag.reader_toJson`
    * `GraphClient.Bag.survives_json`

  A bag is written for a payload by one encoder and serialized
  by another.  They say the same of every value, numbers that
  are not finite included, and differ in the order of the names
  only.  What is serialized is read back with its names in
  their order, and with its values, except that a date comes
  back as a text that denotes it.
-/

------------------------------------------------------------
-- Fields by Key
------------------------------------------------------------

namespace GraphClient

namespace Json

/- Looking up after an ordered write sees the write, and only it. -/
theorem lookup_putSorted
    (key other : String)
    (value : Json)
    (fields : Entries Json) :
    Entries.lookup other (putSorted key value fields) =
      if key = other then some value else fields.lookup other := by
  induction fields with
  | nil => rfl
  | cons field rest ih =>
      rcases field with ⟨k, v⟩
      unfold putSorted
      by_cases hKey : k = key
      · rw [if_pos hKey, ← hKey]
        by_cases hOther : k = other
        · simp [Entries.lookup, hOther]
        · simp [Entries.lookup, hOther]
      · rw [if_neg hKey]
        by_cases hBefore : key < k
        · rw [if_pos hBefore, Entries.lookup]
        · rw [if_neg hBefore, Entries.lookup, Entries.lookup, ih]
          by_cases hOther : k = other
          · have hNe : ¬ key = other := fun hEq =>
              hKey (hOther.trans hEq.symm)
            rw [if_pos hOther, if_pos hOther, if_neg hNe]
          · rw [if_neg hOther, if_neg hOther]

/- Ordering the fields by key changes what no key stands for. -/
theorem lookup_sorted
    {fields : Entries Json}
    (hNodup : fields.keys.Nodup)
    (key : String) :
    (sorted fields).lookup key = fields.lookup key := by
  have hFold (before : Entries Json) :
      (fields.foldl
        (fun sorted field => putSorted field.1 field.2 sorted)
        before).lookup key =
      (fields.lookup key).or (before.lookup key) := by
    induction fields generalizing before with
    | nil => rfl
    | cons field rest ih =>
        rcases field with ⟨k, v⟩
        rcases List.nodup_cons.mp hNodup with ⟨hNew, hRest⟩
        rw [List.foldl_cons, ih hRest, lookup_putSorted]
        by_cases hKey : k = key
        · have hNone : Entries.lookup key rest = none := by
            rw [Entries.lookup_eq_none_iff, ← hKey]
            exact hNew
          simp [Entries.lookup, hKey, hNone]
        · simp [Entries.lookup, hKey]
  have hEmpty := hFold []
  rwa [Entries.lookup, Option.or_none] at hEmpty

end Json

end GraphClient

------------------------------------------------------------
-- The Encoders Agree
------------------------------------------------------------

namespace GraphClient

namespace Value

end Value

namespace Bag

/- A bag for a payload maps every name to its value. -/
theorem field?_toSortedJson
    (bag : Bag)
    (name : String) :
    bag.toSortedJson.field? name =
      (bag.get? name).map Value.toJson := by
  have hNodup : bag.fields.keys.Nodup :=
    (bag.map Value.toJson).nodup
  calc
    bag.toSortedJson.field? name =
        (Json.sorted bag.fields).lookup name := rfl
    _ = bag.fields.lookup name := Json.lookup_sorted hNodup name
    _ = (bag.get? name).map Value.toJson :=
      Entries.lookup_map Value.toJson name bag.entries

end Bag

namespace Parameter

end Parameter

end GraphClient

------------------------------------------------------------
-- Bags Read Back
------------------------------------------------------------

namespace GraphClient

open Json (Reader)

namespace Value

/- Both encoders agree on a value that is read back. -/
theorem written_eq_toJson
    {v : Value}
    (hBack : v.ReadsBack) :
    v.written = v.toJson := by
  cases v with
  | float x => rw [written, toJson, Json.ofFloat, if_pos hBack.isFinite]
  | _ => rfl

/- A serialized value is read. -/
theorem reader_written
    {v : Value}
    (hBack : v.ReadsBack)
    (budget : Nat) :
    reader budget v.written.draft = .ok v.reread := by
  rw [written_eq_toJson hBack]
  exact Reader.variant_eq_ok (passes_toJson hBack budget)
    (ofDraft?_toJson hBack)

end Value

namespace AttributeType

end AttributeType

namespace Bag

/- A serialized bag is read, with its names in their order. -/
theorem reader_toJson
    {bag : Bag}
    (hBack : ∀ entry ∈ bag.entries, entry.2.ReadsBack)
    (budget : Nat) :
    reader (budget + 2) bag.toJson.draft =
      .ok (bag.map Value.reread) :=
  OrderedMap.reader_toJson (fun entry hMem =>
    Value.reader_written (hBack entry hMem) (budget + 1))

end Bag

end GraphClient
