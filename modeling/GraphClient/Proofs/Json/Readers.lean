import GraphClient.Json.Reader
import GraphClient.Proofs.Checks
import GraphClient.Proofs.Json.Drafts
import GraphClient.Proofs.OrderedMap
/-
  What readers make of drafts.

  Key definitions include:
    * `GraphClient.Json.Reader.Passes`
    * `GraphClient.Json.Reader.Yields`
    * `GraphClient.Json.RecordForm.Keeps`

  Key theorems include:
    * `GraphClient.Json.Reader.run_compact`
    * `GraphClient.Json.Reader.run_pretty`
    * `GraphClient.Json.Reader.variant_eq_ok`
    * `GraphClient.Json.Reader.map_eq_ok`
    * `GraphClient.Json.Reader.record_eq`
    * `GraphClient.Json.Reader.yields_record`

  Readers are followed in both directions: what a draft must be
  to be read, and what can be said of anything that was read.
-/

------------------------------------------------------------
-- Reading Written Texts
------------------------------------------------------------

namespace GraphClient

namespace Json

namespace Reader

variable {α : Type}

/- Reading a written value is reading what it spells. -/
theorem run_chars
    {spacing : Spacing}
    (hBlank : spacing.Blank)
    (reader : Reader α)
    (j : Json) :
    run reader (String.ofList (j.chars spacing)) =
      reader nestingLimit j.draft := by
  unfold run
  rw [String.toList_ofList, Draft.read_chars hBlank]
  exact bind_pure (reader nestingLimit j.draft)

/- So is reading its text without white space. -/
theorem run_compact
    (reader : Reader α)
    (j : Json) :
    run reader j.compact = reader nestingLimit j.draft :=
  run_chars Spacing.blank_none reader j

/- So is reading its text with a line for each item. -/
theorem run_pretty
    (reader : Reader α)
    (j : Json) :
    run reader j.pretty = reader nestingLimit j.draft :=
  run_chars Spacing.blank_lines reader j

/- What is read from a text has been read from a draft. -/
theorem exists_of_run_eq_ok
    {reader : Reader α}
    {text : String}
    {value : α}
    (hRun : run reader text = .ok value) :
    ∃ d, reader nestingLimit d = .ok value := by
  unfold run at hRun
  rcases Checks.bind_eq_ok_iff.mp hRun with ⟨found, hRead, hRest⟩
  rcases Checks.next_eq_ok_iff.mp hRest with ⟨_, hValue⟩
  rw [Checks.pure_eq_ok_iff.mp hValue]
  exact ⟨_, hRead⟩

end Reader

end Json

end GraphClient

------------------------------------------------------------
-- Any Value
------------------------------------------------------------

namespace GraphClient

namespace Json

namespace Reader

/- A draft that is JSON, nested no deeper than is allowed. -/
def Passes
    (budget : Nat)
    (d : Draft) :
    Prop :=
  ∃ j, any budget d = .ok j

/- A string passes. -/
theorem passes_string
    (budget : Nat)
    (s : String) :
    Passes budget (.string (some s)) :=
  ⟨.string s, rfl⟩

/- A truth value passes. -/
theorem passes_bool
    (budget : Nat)
    (b : Bool) :
    Passes budget (.bool b) :=
  ⟨.bool b, rfl⟩

/- A numeral is read when it has a value. -/
theorem number_eq_ok_iff
    {n : Numeral}
    {value : Number} :
    number n = .ok value ↔ n.value? = some value := by
  unfold number
  cases n.value? with
  | none =>
      constructor
      · intro hEq
        cases hEq
      · intro hEq
        cases hEq
  | some found =>
      constructor
      · intro hEq
        rw [Except.ok.inj hEq]
      · intro hEq
        rw [Option.some.inj hEq]

/- A numeral that has a value passes. -/
theorem passes_number
    (budget : Nat)
    {n : Numeral}
    {value : Number}
    (hValue : n.value? = some value) :
    Passes budget (.number n) := by
  refine ⟨ofNumber value, ?_⟩
  rw [any, number_eq_ok_iff.mpr hValue]
  rfl

/- A written array passes when its items do. -/
theorem passes_array
    {budget : Nat}
    {items : List Json}
    (hItems : ∀ item ∈ items, Passes (budget + 1) item.draft) :
    Passes (budget + 2) (Json.array items).draft := by
  have hAll :
      ∃ values, anyItems (budget + 1) (drafts items) =
        .ok values := by
    induction items with
    | nil => exact ⟨[], rfl⟩
    | cons item items ih =>
        rcases hItems item (by simp) with ⟨value, hValue⟩
        rcases ih (fun next hMem =>
            hItems next (List.mem_cons_of_mem item hMem)) with
          ⟨values, hValues⟩
        refine ⟨value :: values, ?_⟩
        rw [drafts, anyItems, hValue, hValues]
        rfl
  rcases hAll with ⟨values, hValues⟩
  refine ⟨.array values, ?_⟩
  rw [draft, any, enter]
  simp only [bind, Except.bind, hValues]
  rfl

/- A written object passes when its values do. -/
theorem passes_object
    {budget : Nat}
    {fields : Entries Json}
    (hFields :
      ∀ field ∈ fields, Passes (budget + 1) field.2.draft) :
    Passes (budget + 2) (Json.object fields).draft := by
  have hAll :
      ∃ values, anyMembers (budget + 1) (draftMembers fields) =
        .ok values := by
    induction fields with
    | nil => exact ⟨[], rfl⟩
    | cons field fields ih =>
        rcases field with ⟨key, value⟩
        rcases hFields (key, value) (by simp) with ⟨found, hFound⟩
        rcases ih (fun next hMem =>
            hFields next (List.mem_cons_of_mem _ hMem)) with
          ⟨values, hValues⟩
        refine ⟨(key, found) :: values, ?_⟩
        rw [draftMembers, anyMembers, plain]
        simp only [bind, Except.bind, hFound, hValues]
        rfl
  rcases hAll with ⟨values, hValues⟩
  refine ⟨.object (sorted values), ?_⟩
  rw [draft, any, enter]
  simp only [bind, Except.bind, hValues]
  rfl

variable {α : Type}

/- A value that passes and has one of the forms is read. -/
theorem variant_eq_ok
    {name : String}
    {form? : Draft → Option α}
    {budget : Nat}
    {d : Draft}
    {value : α}
    (hPasses : Passes budget d)
    (hForm : form? d = some value) :
    variant name form? budget d = .ok value := by
  rcases hPasses with ⟨j, hAny⟩
  unfold variant
  rw [hAny, hForm]
  rfl

end Reader

end Json

end GraphClient

------------------------------------------------------------
-- Lists and Maps
------------------------------------------------------------

namespace GraphClient

namespace Json

namespace Reader

variable {α β : Type}

/- Items that are all read are read in order. -/
theorem mapM_eq_ok
    {items : List α}
    {read : α → Except Fault β}
    {value : α → β}
    (hItems : ∀ item ∈ items, read item = .ok (value item)) :
    items.mapM read = .ok (items.map value) := by
  induction items with
  | nil => rfl
  | cons item items ih =>
      have hItem := hItems item (by simp)
      have hRest :=
        ih (fun d hMem => hItems d (List.mem_cons_of_mem item hMem))
      simp only [List.mapM_cons, hItem, hRest, bind, Except.bind]
      rfl

/- What was read in order has been read one by one. -/
theorem exists_of_mapM_eq_ok
    {items : List α}
    {read : α → Except Fault β}
    {values : List β}
    (hRead : items.mapM read = .ok values) :
    ∀ value ∈ values, ∃ item ∈ items, read item = .ok value := by
  induction items generalizing values with
  | nil =>
      intro value hMem
      rw [List.mapM_nil, Checks.pure_eq_ok_iff] at hRead
      rw [hRead] at hMem
      cases hMem
  | cons item items ih =>
      intro value hMem
      rw [List.mapM_cons] at hRead
      rcases Checks.bind_eq_ok_iff.mp hRead with
        ⟨first, hFirst, hRest⟩
      rcases Checks.bind_eq_ok_iff.mp hRest with
        ⟨rest, hTail, hValues⟩
      rw [Checks.pure_eq_ok_iff.mp hValues] at hMem
      rcases List.mem_cons.mp hMem with rfl | hMem
      · exact ⟨item, by simp, hFirst⟩
      · rcases ih hTail value hMem with ⟨found, hFound, hOk⟩
        exact ⟨found, List.mem_cons_of_mem item hFound, hOk⟩

/- A map is read when all of its values are. -/
theorem map_eq_ok
    {reader : Reader β}
    {budget : Nat}
    {entries : Entries α}
    {item : α → Json}
    {value : α → β}
    (hItems :
      ∀ entry ∈ entries,
        reader (budget + 1) (item entry.2).draft =
          .ok (value entry.2)) :
    map reader (budget + 2)
        (Json.object
          (entries.map (fun entry => (entry.1, item entry.2)))).draft =
      .ok (OrderedMap.ofList
        (entries.map (fun entry => (entry.1, value entry.2)))) := by
  have hEntries :
      (entries.map (fun entry =>
          (some entry.1, (item entry.2).draft))).mapM
        (fun member => do
          let key ← plain member.1
          let v ← reader (budget + 1) member.2
          return (key, v)) =
        .ok (entries.map (fun entry => (entry.1, value entry.2))) := by
    rw [List.mapM_map]
    apply mapM_eq_ok
    intro entry hMem
    simp only [Function.comp_apply, plain, bind, Except.bind,
      hItems entry hMem]
    rfl
  rw [draft, draftMembers_eq_map, List.map_map]
  simp only [map, enter, bind, Except.bind] at hEntries ⊢
  simp only [Function.comp_def, hEntries]
  rfl

end Reader

end Json

end GraphClient

------------------------------------------------------------
-- Records
------------------------------------------------------------

namespace GraphClient

namespace Json

variable {σ α : Type}

/- A member fills the slot of its field, if it is empty. -/
theorem RecordForm.readMembers_of
    {form : RecordForm σ}
    {key name : String}
    {slot : σ → Option α}
    {fill : σ → α → σ}
    {reader : Reader α}
    (hField :
      form.field? key = some (.of name slot fill reader))
    {budget : Nat}
    {d : Draft}
    {value : α}
    (hRead : reader budget d = .ok value)
    {slots : σ}
    (hEmpty : slot slots = none)
    (members : List (Option String × Draft)) :
    form.readMembers budget ((some key, d) :: members) slots =
      form.readMembers budget members (fill slots value) := by
  have hSet :
      (RecordField.of name slot fill reader).isSet slots = false := by
    unfold RecordField.of
    simp only [hEmpty, Option.isSome_none]
  have hFill :
      (RecordField.of name slot fill reader).read budget d slots =
        .ok (fill slots value) := by
    unfold RecordField.of
    simp only [hRead]
    rfl
  simp only [RecordForm.readMembers, Reader.plain, hField, hSet,
    hFill, bind, Except.bind, Bool.false_eq_true, if_false]

/- A record is built from the slots that its members fill. -/
theorem Reader.record_eq
    {form : RecordForm σ}
    {build : (String → Misfit) → σ → Except Misfit α}
    {budget : Nat}
    {members : List (Option String × Draft)}
    {slots filled : σ}
    (hMembers :
      form.readMembers (budget + 1) members slots = .ok filled) :
    Reader.record form slots build (budget + 2)
        (.object members true) =
      (build .missing filled).mapError .misfit := by
  simp only [record, enter, bind, Except.bind, hMembers, close, if_true]

/- A written string is read. -/
theorem Reader.string_draft
    (budget : Nat)
    (s : String) :
    Reader.string budget (Json.string s).draft = .ok s :=
  rfl

/- A written truth value is read. -/
theorem Reader.bool_draft
    (budget : Nat)
    (b : Bool) :
    Reader.bool budget (Json.bool b).draft = .ok b :=
  rfl

/- What has been read and passes its check is read. -/
theorem Reader.checked_eq_ok
    {β : Type}
    {reader : Reader α}
    {check : α → Except Misfit β}
    {budget : Nat}
    {d : Draft}
    {value : α}
    {result : β}
    (hRead : reader budget d = .ok value)
    (hCheck : check value = .ok result) :
    Reader.checked reader check budget d = .ok result := by
  unfold checked
  rw [hRead]
  exact congrArg (Except.mapError Fault.misfit) hCheck

end Json

end GraphClient

------------------------------------------------------------
-- What Has Been Read
------------------------------------------------------------

namespace GraphClient

namespace Json

variable {σ α β : Type}

/- A reader all of whose values have a property. -/
def Reader.Yields
    (reader : Reader α)
    (P : α → Prop) :
    Prop :=
  ∀ budget d value, reader budget d = .ok value → P value

/- A misfit is no value. -/
theorem Reader.wrongType_ne_ok
    {expected : String}
    {d : Draft}
    {value : α} :
    wrongType expected d ≠ .ok value := by
  intro hRead
  rcases Checks.bind_eq_ok_iff.mp hRead with ⟨found, _, hThrow⟩
  cases hThrow

/- Every reader yields something. -/
theorem Reader.yields_true
    (reader : Reader α) :
    Yields reader (fun _ => True) :=
  fun _ _ _ _ => trivial

/- A value in one of several forms has what all forms have. -/
theorem Reader.yields_variant
    {name : String}
    {form? : Draft → Option α}
    {P : α → Prop}
    (hForm : ∀ d value, form? d = some value → P value) :
    Yields (variant name form?) P := by
  intro budget d value hRead
  unfold variant at hRead
  rcases Checks.bind_eq_ok_iff.mp hRead with ⟨_, _, hValue⟩
  cases hFound : form? d with
  | none =>
      rw [hFound] at hValue
      cases hValue
  | some found =>
      rw [hFound] at hValue
      rw [Checks.pure_eq_ok_iff.mp hValue]
      exact hForm d found hFound

/- A checked value is what the check makes of a value. -/
theorem Reader.yields_checked
    {reader : Reader α}
    {check : α → Except Misfit β}
    {P : α → Prop}
    {Q : β → Prop}
    (hReader : Yields reader P)
    (hCheck :
      ∀ value, P value → ∀ result, check value = .ok result →
        Q result) :
    Yields (checked reader check) Q := by
  intro budget d result hRead
  rcases Checks.bind_eq_ok_iff.mp hRead with ⟨value, hValue, hResult⟩
  exact hCheck value (hReader budget d value hValue) result
    (Checks.mapError_eq_ok_iff.mp hResult)

/- The values of a map have what its reader yields. -/
theorem Reader.yields_map
    {reader : Reader α}
    {P : α → Prop}
    (hReader : Yields reader P) :
    Yields (map reader)
      (fun m => ∀ entry ∈ m.entries, P entry.2) := by
  intro budget d m hRead
  cases d with
  | object members closed =>
      rcases Checks.bind_eq_ok_iff.mp hRead with ⟨inner, _, hRest⟩
      rcases Checks.bind_eq_ok_iff.mp hRest with
        ⟨entries, hEntries, hMap⟩
      rcases Checks.next_eq_ok_iff.mp hMap with ⟨_, hResult⟩
      rw [Checks.pure_eq_ok_iff.mp hResult]
      intro entry hMem
      rcases exists_of_mapM_eq_ok hEntries entry
          (OrderedMap.mem_of_mem_ofList hMem) with
        ⟨member, _, hMember⟩
      rcases Checks.bind_eq_ok_iff.mp hMember with ⟨key, _, hValue⟩
      rcases Checks.bind_eq_ok_iff.mp hValue with
        ⟨value, hFound, hPair⟩
      rw [Checks.pure_eq_ok_iff.mp hPair]
      exact hReader inner member.2 value hFound
  | _ => exact absurd hRead wrongType_ne_ok

/- A field that is read only into slots with a property. -/
def RecordField.Keeps
    (field : RecordField σ)
    (P : σ → Prop) :
    Prop :=
  ∀ budget d slots filled,
    P slots → field.read budget d slots = .ok filled → P filled

/- A form all of whose fields keep a property of the slots. -/
def RecordForm.Keeps
    (form : RecordForm σ)
    (P : σ → Prop) :
    Prop :=
  ∀ field ∈ form.fields, field.Keeps P

/- A field keeps what holds of the slots that it fills. -/
theorem RecordField.keeps_of
    {name : String}
    {slot : σ → Option α}
    {fill : σ → α → σ}
    {reader : Reader α}
    {P : σ → Prop}
    {Q : α → Prop}
    (hReader : reader.Yields Q)
    (hFill :
      ∀ slots value, P slots → Q value → P (fill slots value)) :
    (RecordField.of name slot fill reader).Keeps P := by
  intro budget d slots filled hSlots hRead
  rcases Checks.bind_eq_ok_iff.mp hRead with ⟨value, hValue, hFilled⟩
  rw [Checks.pure_eq_ok_iff.mp hFilled]
  exact hFill slots value hSlots (hReader budget d value hValue)

/- A field keeps what no value of its slot can change. -/
theorem RecordField.keeps_of_forall
    {name : String}
    {slot : σ → Option α}
    {fill : σ → α → σ}
    {reader : Reader α}
    {P : σ → Prop}
    (hFill : ∀ slots value, P slots → P (fill slots value)) :
    (RecordField.of name slot fill reader).Keeps P :=
  keeps_of (Reader.yields_true reader)
    (fun slots value hSlots _ => hFill slots value hSlots)

/- Reading members keeps what each field keeps. -/
theorem RecordForm.Keeps.readMembers
    {form : RecordForm σ}
    {P : σ → Prop}
    (hKeeps : form.Keeps P)
    {budget : Nat}
    {members : List (Option String × Draft)}
    {slots filled : σ}
    (hSlots : P slots)
    (hRead : form.readMembers budget members slots = .ok filled) :
    P filled := by
  induction members generalizing slots with
  | nil =>
      cases hRead
      exact hSlots
  | cons member members ih =>
      rcases member with ⟨key, d⟩
      rcases Checks.bind_eq_ok_iff.mp hRead with ⟨name, _, hMember⟩
      cases hField : form.field? name with
      | none =>
          simp only [hField] at hMember
          by_cases hWhole : d.isWhole = true
          · simp only [hWhole, if_true] at hMember
            exact ih hSlots hMember
          · simp only [hWhole] at hMember
            cases hMember
      | some field =>
          simp only [hField] at hMember
          by_cases hSet : field.isSet slots = true
          · simp only [hSet, if_true] at hMember
            cases hMember
          · simp only [hSet] at hMember
            rcases Checks.bind_eq_ok_iff.mp hMember with
              ⟨next, hNext, hRest⟩
            have hListed := List.mem_of_find?_eq_some hField
            exact ih
              (hKeeps field hListed budget d slots next hSlots hNext)
              hRest

/- Reading items keeps what each field keeps. -/
theorem RecordForm.Keeps.readItems
    {P : σ → Prop}
    {budget : Nat}
    {fields : List (RecordField σ)}
    (hKeeps : ∀ field ∈ fields, field.Keeps P)
    {items : List Draft}
    {slots filled : σ}
    (hSlots : P slots)
    (hRead :
      RecordForm.readItems budget fields items slots = .ok filled) :
    P filled := by
  induction fields generalizing items slots with
  | nil =>
      cases hRead
      exact hSlots
  | cons field fields ih =>
      cases items with
      | nil =>
          cases hRead
          exact hSlots
      | cons d items =>
          rcases Checks.bind_eq_ok_iff.mp hRead with
            ⟨next, hNext, hRest⟩
          exact ih
            (fun other hMem =>
              hKeeps other (List.mem_cons_of_mem field hMem))
            (hKeeps field (by simp) budget d slots next hSlots hNext)
            hRest

/- A record has what is built from the slots that are kept. -/
theorem Reader.yields_record
    {form : RecordForm σ}
    {P : σ → Prop}
    (hKeeps : form.Keeps P)
    {slots : σ}
    (hSlots : P slots)
    {build : (String → Misfit) → σ → Except Misfit α}
    {Q : α → Prop}
    (hBuild :
      ∀ absent filled, P filled → ∀ value,
        build absent filled = .ok value → Q value) :
    Yields (record form slots build) Q := by
  intro budget d value hRead
  cases d with
  | object members closed =>
      rcases Checks.bind_eq_ok_iff.mp hRead with ⟨inner, _, hInner⟩
      rcases Checks.bind_eq_ok_iff.mp hInner with
        ⟨filled, hFilled, hRest⟩
      rcases Checks.next_eq_ok_iff.mp hRest with ⟨_, hValue⟩
      exact hBuild _ filled (hKeeps.readMembers hSlots hFilled) value
        (Checks.mapError_eq_ok_iff.mp hValue)
  | array items closed =>
      rcases Checks.bind_eq_ok_iff.mp hRead with ⟨inner, _, hInner⟩
      rcases Checks.bind_eq_ok_iff.mp hInner with
        ⟨filled, hFilled, hRest⟩
      rcases Checks.next_eq_ok_iff.mp hRest with ⟨_, hBuilt⟩
      rcases Checks.bind_eq_ok_iff.mp hBuilt with
        ⟨result, hResult, hClose⟩
      rcases Checks.next_eq_ok_iff.mp hClose with ⟨_, hValue⟩
      rw [Checks.pure_eq_ok_iff.mp hValue]
      have hKept := RecordForm.Keeps.readItems hKeeps hSlots hFilled
      exact hBuild _ filled hKept result
        (Checks.mapError_eq_ok_iff.mp hResult)
  | _ => exact absurd hRead wrongType_ne_ok

end Json

end GraphClient
