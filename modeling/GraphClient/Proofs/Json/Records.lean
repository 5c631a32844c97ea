import GraphClient.Proofs.Json.Readers
import GraphClient.Proofs.Traversal
import Mathlib.Data.List.Pairwise
/-
  Objects whose members come in any order.

  Key definitions include:
    * `GraphClient.Json.Draft.IsScalar`
    * `GraphClient.Json.Draft.Lists`
    * `GraphClient.Json.RecordForm.Orderless`
    * `GraphClient.Json.Reader.ifGiven`

  Key theorems include:
    * `GraphClient.Json.RecordForm.Orderless.readMembers_perm`
    * `GraphClient.Json.RecordForm.Orderless.readMembers_lists`
    * `GraphClient.Json.Reader.member?_lists_given`
    * `GraphClient.Json.RecordForm.readMembers_given`
    * `GraphClient.Json.Reader.toOption_checked_record`

  A record is the same in whichever order its members come, and
  members of other names do not matter.  This is followed for
  the fields that are filled one by one as well as for members
  that are looked up afterwards.
-/

------------------------------------------------------------
-- Members
------------------------------------------------------------

namespace GraphClient

namespace Json

namespace Draft

/- A value that is no bracket, with everything in it sound. -/
def IsScalar : Draft → Prop
| .null => True
| .bool _ => True
| .number n => ∃ value, n.value? = some value
| .string s => ∃ text, s = some text
| _ => False

/- The fields that are given; the others are left out. -/
def given
    (fields : List (String × Option Draft)) :
    Entries Draft :=
  fields.filterMap (fun field => field.2.map (fun d => (field.1, d)))

/- A field that is given in some form, or has its default. -/
def OrDefault
    {α : Type}
    (P : Draft → α → Prop)
    (default : α) :
    Option Draft → α → Prop
| none, a => a = default
| some d, a => P d a

/- Members that all have keys. -/
def keyed
    (fields : Entries Draft) :
    List (Option String × Draft) :=
  fields.map (fun field => (some field.1, field.2))

/-
  The members of an object list certain fields in any order, and
  beside these only scalars under other names than those known.
-/
def Lists
    (names : List String)
    (fields : Entries Draft)
    (members : List (Option String × Draft)) :
    Prop :=
  ∃ extras : Entries Draft,
    members.Perm (keyed (fields ++ extras)) ∧
      ∀ extra ∈ extras, extra.1 ∉ names ∧ extra.2.IsScalar

/- What is given is one of the fields. -/
theorem mem_given_iff
    {fields : List (String × Option Draft)}
    {field : String × Draft} :
    field ∈ given fields ↔ (field.1, some field.2) ∈ fields := by
  unfold given
  rw [List.mem_filterMap]
  constructor
  · rintro ⟨⟨key, d?⟩, hMem, hGiven⟩
    rcases Option.map_eq_some_iff.mp hGiven with ⟨d, rfl, rfl⟩
    exact hMem
  · intro hMem
    exact ⟨_, hMem, rfl⟩

/- A scalar is whole. -/
theorem IsScalar.isWhole
    {d : Draft}
    (hScalar : d.IsScalar) :
    d.isWhole = true := by
  cases d with
  | broken => exact hScalar.elim
  | array items closed => exact hScalar.elim
  | object members closed => exact hScalar.elim
  | _ => rfl

/- A scalar passes as JSON at any depth. -/
theorem IsScalar.passes
    {d : Draft}
    (hScalar : d.IsScalar)
    (budget : Nat) :
    Reader.Passes budget d := by
  cases d with
  | null => exact ⟨.null, rfl⟩
  | bool b => exact Reader.passes_bool budget b
  | number n =>
      rcases hScalar with ⟨value, hValue⟩
      exact Reader.passes_number budget hValue
  | string s =>
      rcases hScalar with ⟨text, rfl⟩
      exact Reader.passes_string budget text
  | _ => exact hScalar.elim

end Draft

end Json

end GraphClient

------------------------------------------------------------
-- Members That Are Looked Up
------------------------------------------------------------

namespace GraphClient

namespace Json

namespace Reader

open Draft (Lists OrDefault keyed given)

/- An object passes when its values do and its keys are sound. -/
theorem passes_members
    {budget : Nat}
    {members : List (Option String × Draft)}
    (hMembers :
      ∀ member ∈ members,
        member.1.isSome = true ∧ Passes (budget + 1) member.2) :
    Passes (budget + 2) (.object members true) := by
  have hAll :
      ∃ values, anyMembers (budget + 1) members = .ok values := by
    induction members with
    | nil => exact ⟨[], rfl⟩
    | cons member members ih =>
        rcases List.forall_mem_cons.mp hMembers with
          ⟨⟨hKey, found, hFound⟩, hRest⟩
        rcases ih hRest with ⟨values, hValues⟩
        rcases member with ⟨key, value⟩
        rcases Option.isSome_iff_exists.mp hKey with ⟨name, rfl⟩
        refine ⟨(name, found) :: values, ?_⟩
        rw [anyMembers, plain]
        simp only [bind, Except.bind, hFound, hValues]
        rfl
  rcases hAll with ⟨values, hValues⟩
  refine ⟨.object (sorted values), ?_⟩
  rw [any, enter]
  simp only [bind, Except.bind, hValues]
  rfl

/- An object of listed fields passes when the fields do. -/
theorem passes_lists
    {names : List String}
    {fields : Entries Draft}
    {members : List (Option String × Draft)}
    (hLists : Lists names fields members)
    {budget : Nat}
    (hFields : ∀ field ∈ fields, Passes (budget + 1) field.2) :
    Passes (budget + 2) (.object members true) := by
  rcases hLists with ⟨extras, hPerm, hExtras⟩
  apply passes_members
  intro member hMem
  rcases List.mem_map.mp (hPerm.mem_iff.mp hMem) with
    ⟨field, hField, rfl⟩
  refine ⟨rfl, ?_⟩
  rcases List.mem_append.mp hField with hKnown | hExtra
  · exact hFields field hKnown
  · exact (hExtras field hExtra).2.passes _

/- What is looked up does not depend on the order. -/
theorem member?_perm
    {xs ys : List (Option String × Draft)}
    (hPerm : xs.Perm ys)
    (key : String) :
    member? xs key = member? ys key := by
  have hFound := hPerm.filter (fun member => member.1 = some key)
  unfold member?
  generalize xs.filter (fun member => member.1 = some key) = found
    at hFound
  generalize ys.filter (fun member => member.1 = some key) = others
    at hFound
  match found, hFound with
  | [], hFound => rw [hFound.symm.eq_nil]
  | [member], hFound => rw [List.singleton_perm.mp hFound]
  | first :: second :: rest, hFound =>
      match others, hFound.length_eq with
      | _ :: _ :: _, _ => rfl

/- A known name is looked up among the listed fields. -/
theorem member?_lists
    {names : List String}
    {fields : Entries Draft}
    {members : List (Option String × Draft)}
    (hLists : Lists names fields members)
    {key : String}
    (hKey : key ∈ names) :
    member? members key = member? (keyed fields) key := by
  rcases hLists with ⟨extras, hPerm, hExtras⟩
  rw [member?_perm hPerm]
  have hNone :
      (keyed extras).filter (fun member => member.1 = some key) =
        [] := by
    rw [List.filter_eq_nil_iff]
    intro member hMem hFound
    rcases List.mem_map.mp hMem with ⟨extra, hExtra, rfl⟩
    simp only [decide_eq_true_eq, Option.some.injEq] at hFound
    exact (hExtras extra hExtra).1 (hFound ▸ hKey)
  unfold member? keyed at *
  rw [List.map_append, List.filter_append, hNone, List.append_nil]

/- The given fields of a list are those of its parts. -/
theorem keyed_given_cons
    (field : String × Option Draft)
    (fields : List (String × Option Draft)) :
    keyed (given (field :: fields)) =
      keyed (given [field]) ++ keyed (given fields) := by
  rcases field with ⟨key, d?⟩
  cases d? <;> rfl

/- A field is looked up as it is given. -/
theorem member?_given
    {fields : List (String × Option Draft)}
    (hNodup : (fields.map Prod.fst).Nodup)
    {key : String}
    {d? : Option Draft}
    (hField : (key, d?) ∈ fields) :
    member? (keyed (given fields)) key = some d? := by
  have hAlone :
      fields.filter (fun field => field.1 = key) = [(key, d?)] := by
    rcases List.append_of_mem hField with ⟨before, after, rfl⟩
    rw [List.map_append, List.map_cons, List.nodup_append,
      List.nodup_cons] at hNodup
    have hBefore : key ∉ before.map Prod.fst :=
      fun hMem => hNodup.2.2 key hMem key (by simp) rfl
    have hOther (part : List (String × Option Draft))
        (hNew : key ∉ part.map Prod.fst) :
        ∀ field ∈ part, ¬ decide (field.1 = key) = true := by
      intro field hMem hFound
      apply hNew
      rw [← of_decide_eq_true hFound]
      exact List.mem_map_of_mem hMem
    apply List.filter_eq_cons_iff.mpr
    exact ⟨before, after, rfl, hOther before hBefore,
      decide_eq_true rfl,
      List.filter_eq_nil_iff.mpr (hOther after hNodup.2.1.1)⟩
  have hFilter :
      (keyed (given fields)).filter
          (fun member => member.1 = some key) =
        keyed (given
          (fields.filter (fun field => field.1 = key))) := by
    clear hNodup hField hAlone
    induction fields with
    | nil => rfl
    | cons field fields ih =>
        rcases field with ⟨name, e?⟩
        rw [keyed_given_cons, List.filter_append, ih]
        by_cases hName : name = key
        · rw [List.filter_cons_of_pos (by simpa using hName),
            keyed_given_cons]
          cases e? <;> simp [keyed, given, hName]
        · rw [List.filter_cons_of_neg (by simpa using hName)]
          cases e? <;> simp [keyed, given, hName]
  unfold member?
  rw [hFilter, hAlone]
  cases d? <;> rfl

/- A known field of listed ones is looked up as it is given. -/
theorem member?_lists_given
    {names : List String}
    {fields : List (String × Option Draft)}
    {members : List (Option String × Draft)}
    (hLists : Lists names (given fields) members)
    (hNames : fields.map Prod.fst = names)
    (hNodup : names.Nodup)
    {key : String}
    {d? : Option Draft}
    (hField : (key, d?) ∈ fields) :
    member? members key = some d? := by
  subst hNames
  rw [member?_lists hLists (List.mem_map_of_mem hField)]
  exact member?_given hNodup hField

variable {α : Type} {form? : Draft → Option α}

/- A field that is given is looked up in its form. -/
theorem member_eq_some
    {members : List (Option String × Draft)}
    {key : String}
    {d : Draft}
    (hMember : member? members key = some (some d))
    {a : α}
    (hForm : form? d = some a) :
    member members key form? = some a := by
  unfold member optional?
  rw [hMember]
  simp only [hForm, Option.map_some, Option.bind_some, id]

/- A field that may be left out is looked up in its form. -/
theorem optional?_eq_some
    {members : List (Option String × Draft)}
    {key : String}
    {d? : Option Draft}
    (hMember : member? members key = some d?)
    {P : Draft → α → Prop}
    (hForm : ∀ d a, P d a → form? d = some a)
    {default a : α}
    (hGiven : OrDefault P default d? a) :
    ∃ found,
      optional? members key form? = some found ∧
        found.getD default = a := by
  unfold optional?
  rw [hMember]
  cases d? with
  | none => exact ⟨none, rfl, hGiven.symm⟩
  | some d =>
      refine ⟨some a, ?_, rfl⟩
      simp only [hForm d a hGiven, Option.map_some]

/- What has to be given is looked up as it is given. -/
theorem member_eq_bind
    {members : List (Option String × Draft)}
    {key : String}
    {d? : Option Draft}
    (hMember : member? members key = some d?) :
    member members key form? = d?.bind form? := by
  unfold member optional?
  rw [hMember]
  cases d? with
  | none => rfl
  | some d =>
      cases hForm : form? d with
      | none => simp [hForm]
      | some a => simp [hForm]

/- What is left out for its default is looked up as the default. -/
theorem optional?_getD
    {members : List (Option String × Draft)}
    {key : String}
    {default d : Draft}
    {d? : Option Draft}
    (hMember : member? members key = some d?)
    (hGiven : OrDefault Eq default d? d)
    {a : α}
    (hDefault : form? default = some a) :
    (optional? members key form?).map (fun found => found.getD a) =
      form? d := by
  unfold optional?
  rw [hMember]
  cases d? with
  | none =>
      rw [show d = default from hGiven, hDefault]
      rfl
  | some found =>
      rw [← show found = d from hGiven]
      cases hForm : form? found with
      | none => simp [hForm]
      | some a => simp [hForm]

/- An object that is a word has a single member, which is null. -/
theorem eq_of_word?_object
    {members : List (Option String × Draft)}
    {closed : Bool}
    {word : String}
    (hWord : word? (.object members closed) = some word) :
    members = [(some word, .null)] := by
  unfold word? at hWord
  split at hWord
  · next hString => cases hString
  · next key closed hObject =>
      cases hObject
      rw [hWord]
  · cases hWord

/- An object with a field that is not null is no word. -/
theorem word?_lists
    {names : List String}
    {fields : Entries Draft}
    {members : List (Option String × Draft)}
    (hLists : Lists names fields members)
    {field : String × Draft}
    (hField : field ∈ fields)
    (hNull : field.2 ≠ .null) :
    word? (.object members true) = none := by
  rw [Option.eq_none_iff_forall_ne_some]
  intro word hWord
  rcases hLists with ⟨extras, hPerm, _⟩
  have hMem :
      (some field.1, field.2) ∈ keyed (fields ++ extras) :=
    List.mem_map_of_mem
      (f := fun field : String × Draft => (some field.1, field.2))
      (List.mem_append_left extras hField)
  have hFound := hPerm.mem_iff.mpr hMem
  rw [eq_of_word?_object hWord] at hFound
  have hOnly := List.mem_singleton.mp hFound
  exact hNull (congrArg Prod.snd hOnly)

end Reader

end Json

end GraphClient

------------------------------------------------------------
-- Fields That Are Filled
------------------------------------------------------------

namespace GraphClient

namespace Json

open Draft (Lists keyed given)

variable {σ α β : Type}

/-
  Two fields of a record that do not get in each other's way:
  neither sets the other, and either may be read first.
-/
structure RecordField.Apart (f g : RecordField σ) : Prop where
  right :
    ∀ budget d slots filled,
      f.read budget d slots = .ok filled →
        g.isSet filled = g.isSet slots
  left :
    ∀ budget d slots filled,
      g.read budget d slots = .ok filled →
        f.isSet filled = f.isSet slots
  swap :
    ∀ budget d e slots,
      Checks.Alike
        (f.read budget d slots >>= g.read budget e)
        (g.read budget e slots >>= f.read budget d)

/- Being apart goes both ways. -/
theorem RecordField.Apart.symm
    {f g : RecordField σ}
    (hApart : f.Apart g) :
    g.Apart f where
  right := hApart.left
  left := hApart.right
  swap := fun budget d e slots =>
    (hApart.swap budget e d slots).symm

/- Fields that fill different slots are apart. -/
theorem RecordField.apart_of
    {name other : String}
    {slot : σ → Option α}
    {fill : σ → α → σ}
    {reader : Reader α}
    {slot' : σ → Option β}
    {fill' : σ → β → σ}
    {reader' : Reader β}
    (hRight : ∀ slots a, slot' (fill slots a) = slot' slots)
    (hLeft : ∀ slots b, slot (fill' slots b) = slot slots)
    (hSwap :
      ∀ slots a b,
        fill' (fill slots a) b = fill (fill' slots b) a) :
    (RecordField.of name slot fill reader).Apart
      (.of other slot' fill' reader') where
  right := by
    intro budget d slots filled hRead
    rcases Checks.bind_eq_ok_iff.mp hRead with ⟨a, _, hFilled⟩
    rw [Checks.pure_eq_ok_iff.mp hFilled]
    exact congrArg Option.isSome (hRight slots a)
  left := by
    intro budget d slots filled hRead
    rcases Checks.bind_eq_ok_iff.mp hRead with ⟨b, _, hFilled⟩
    rw [Checks.pure_eq_ok_iff.mp hFilled]
    exact congrArg Option.isSome (hLeft slots b)
  swap := by
    intro budget d e slots filled
    simp only [RecordField.of, Checks.bind_eq_ok_iff,
      Checks.pure_eq_ok_iff]
    constructor
    · rintro ⟨_, ⟨a, hA, rfl⟩, b, hB, rfl⟩
      exact ⟨_, ⟨b, hB, rfl⟩, a, hA, hSwap slots a b⟩
    · rintro ⟨_, ⟨b, hB, rfl⟩, a, hA, rfl⟩
      exact ⟨_, ⟨a, hA, rfl⟩, b, hB, (hSwap slots a b).symm⟩

instance : Std.Symm (@RecordField.Apart σ) where
  symm := fun _ _ hApart => hApart.symm

/- A field that is set by being read. -/
def RecordField.Sets
    (field : RecordField σ) :
    Prop :=
  ∀ budget d slots filled,
    field.read budget d slots = .ok filled →
      field.isSet filled = true

/- A field that fills its slot is set by being read. -/
theorem RecordField.sets_of
    {name : String}
    {slot : σ → Option α}
    {fill : σ → α → σ}
    {reader : Reader α}
    (hFill : ∀ slots a, slot (fill slots a) = some a) :
    (RecordField.of name slot fill reader).Sets := by
  intro budget d slots filled hRead
  rcases Checks.bind_eq_ok_iff.mp hRead with ⟨a, _, hFilled⟩
  rw [Checks.pure_eq_ok_iff.mp hFilled]
  exact congrArg Option.isSome (hFill slots a)

/- A record whose fields may come in any order. -/
structure RecordForm.Orderless (form : RecordForm σ) : Prop where
  sets : ∀ field ∈ form.fields, field.Sets
  apart : form.fields.Pairwise RecordField.Apart

namespace RecordForm

/- Read a single member. -/
def step
    (form : RecordForm σ)
    (budget : Nat)
    (member : Option String × Draft)
    (slots : σ) :
    Except Fault σ := do
  let key ← Reader.plain member.1
  match form.field? key with
  | none => if member.2.isWhole then .ok slots else throw .malformed
  | some field =>
      if field.isSet slots then
        throw (.misfit (.duplicate key))
      else
        field.read budget member.2 slots

/- Members are read one after the other. -/
theorem readMembers_cons
    (form : RecordForm σ)
    (budget : Nat)
    (member : Option String × Draft)
    (members : List (Option String × Draft))
    (slots : σ) :
    form.readMembers budget (member :: members) slots =
      form.step budget member slots >>=
        form.readMembers budget members := by
  rcases member with ⟨key, d⟩
  cases key with
  | none => rfl
  | some key =>
      simp only [readMembers, step, Reader.plain, bind, Except.bind]
      cases form.field? key with
      | none =>
          cases hWhole : d.isWhole with
          | true => simp
          | false => rfl
      | some field =>
          by_cases hSet : field.isSet slots = true
          · simp only [hSet, if_true]
            rfl
          · simp only [hSet]
            rfl

/-
  A member is passed over, is a fault wherever it stands, or is
  read into a field that is not set.
-/
theorem step_cases
    (form : RecordForm σ)
    (budget : Nat)
    (member : Option String × Draft) :
    (∀ slots, form.step budget member slots = .ok slots) ∨
      (∀ slots filled,
        form.step budget member slots ≠ .ok filled) ∨
      ∃ field,
        form.field? field.name = some field ∧
          ∀ slots filled,
            form.step budget member slots = .ok filled ↔
              field.isSet slots = false ∧
                field.read budget member.2 slots = .ok filled := by
  rcases member with ⟨key, d⟩
  cases key with
  | none => exact Or.inr (Or.inl (fun _ _ hStep => by cases hStep))
  | some key =>
      cases hField : form.field? key with
      | none =>
          simp only [step, Reader.plain, bind, Except.bind, hField]
          cases d.isWhole with
          | true => exact Or.inl (fun _ => rfl)
          | false =>
              exact Or.inr (Or.inl (fun _ _ hStep => by cases hStep))
      | some field =>
          have hName : field.name = key := by
            simpa using List.find?_some hField
          refine Or.inr (Or.inr ⟨field, hName ▸ hField, ?_⟩)
          intro slots filled
          simp only [step, Reader.plain, bind, Except.bind, hField]
          cases field.isSet slots with
          | true => simp [throw, throwThe, MonadExceptOf.throw]
          | false => simp

/- Two members in a row may change places. -/
theorem Orderless.alike_step
    {form : RecordForm σ}
    (hForm : form.Orderless)
    (budget : Nat)
    (x y : Option String × Draft)
    (slots : σ) :
    Checks.Alike
      (form.step budget x slots >>= form.step budget y)
      (form.step budget y slots >>= form.step budget x) := by
  intro t
  rw [Checks.bind_eq_ok_iff, Checks.bind_eq_ok_iff]
  rcases form.step_cases budget x with hX | hX | ⟨f, hF, hX⟩
  · simp [hX]
  · simp [hX]
  · rcases form.step_cases budget y with hY | hY | ⟨g, hG, hY⟩
    · simp [hY]
    · simp [hY]
    · simp only [hX, hY]
      have hMemF := List.mem_of_find?_eq_some hF
      have hMemG := List.mem_of_find?_eq_some hG
      by_cases hName : f.name = g.name
      · -- the second of two members of one field is a fault
        have hSame : f = g := by
          rw [hName, hG] at hF
          exact (Option.some.inj hF).symm
        subst hSame
        constructor
        · rintro ⟨u, ⟨_, hRead⟩, hUnset, _⟩
          rw [hForm.sets f hMemF _ _ _ _ hRead] at hUnset
          cases hUnset
        · rintro ⟨u, ⟨_, hRead⟩, hUnset, _⟩
          rw [hForm.sets f hMemF _ _ _ _ hRead] at hUnset
          cases hUnset
      · have hApart : f.Apart g :=
          hForm.apart.forall hMemF hMemG
            (fun hEq => hName (congrArg RecordField.name hEq))
        have hSwap := hApart.swap budget x.2 y.2 slots t
        rw [Checks.bind_eq_ok_iff, Checks.bind_eq_ok_iff] at hSwap
        constructor
        · rintro ⟨u, ⟨hFree, hRead⟩, hOther, hNext⟩
          rw [hApart.right _ _ _ _ hRead] at hOther
          rcases hSwap.mp ⟨u, hRead, hNext⟩ with ⟨v, hFirst, hSecond⟩
          refine ⟨v, ⟨hOther, hFirst⟩, ?_, hSecond⟩
          rw [hApart.left _ _ _ _ hFirst]
          exact hFree
        · rintro ⟨v, ⟨hFree, hRead⟩, hOther, hNext⟩
          rw [hApart.left _ _ _ _ hRead] at hOther
          rcases hSwap.mpr ⟨v, hRead, hNext⟩ with ⟨u, hFirst, hSecond⟩
          refine ⟨u, ⟨hOther, hFirst⟩, ?_, hSecond⟩
          rw [hApart.right _ _ _ _ hFirst]
          exact hFree

/- Members may come in any order. -/
theorem Orderless.readMembers_perm
    {form : RecordForm σ}
    (hForm : form.Orderless)
    {xs ys : List (Option String × Draft)}
    (hPerm : xs.Perm ys)
    (budget : Nat)
    (slots : σ) :
    Checks.Alike
      (form.readMembers budget xs slots)
      (form.readMembers budget ys slots) := by
  induction hPerm generalizing slots with
  | nil => exact Checks.Alike.refl _
  | cons x _ ih =>
      rw [readMembers_cons, readMembers_cons]
      exact (Checks.Alike.refl _).bind ih
  | swap x y rest =>
      have hCons (z : Option String × Draft) :
          form.readMembers budget (z :: rest) =
            fun slots =>
              form.step budget z slots >>=
                form.readMembers budget rest :=
        funext (form.readMembers_cons budget z rest)
      rw [readMembers_cons, readMembers_cons, hCons, hCons,
        ← bind_assoc, ← bind_assoc]
      exact (hForm.alike_step budget y x slots).bind
        (fun _ => Checks.Alike.refl _)
  | trans _ _ ihFirst ihSecond =>
      exact (ihFirst slots).trans (ihSecond slots)

/- Members are read after those before them. -/
theorem readMembers_append
    (form : RecordForm σ)
    (budget : Nat)
    (xs ys : List (Option String × Draft))
    (slots : σ) :
    form.readMembers budget (xs ++ ys) slots =
      form.readMembers budget xs slots >>=
        form.readMembers budget ys := by
  induction xs generalizing slots with
  | nil => rfl
  | cons x xs ih =>
      rw [List.cons_append, readMembers_cons, readMembers_cons,
        bind_assoc]
      exact congrArg _ (funext ih)

/- Scalars under unknown names are passed over. -/
theorem readMembers_extras
    (form : RecordForm σ)
    (budget : Nat)
    {extras : Entries Draft}
    (hExtras :
      ∀ extra ∈ extras,
        extra.1 ∉ form.fields.map RecordField.name ∧
          extra.2.IsScalar)
    (slots : σ) :
    form.readMembers budget (keyed extras) slots = .ok slots := by
  induction extras with
  | nil => rfl
  | cons extra extras ih =>
      rcases List.forall_mem_cons.mp hExtras with
        ⟨⟨hUnknown, hScalar⟩, hRest⟩
      have hField : form.field? extra.1 = none := by
        apply List.find?_eq_none.mpr
        intro field hMem hFound
        apply hUnknown
        rw [← of_decide_eq_true hFound]
        exact List.mem_map_of_mem hMem
      change form.readMembers budget
        ((some extra.1, extra.2) :: keyed extras) slots = _
      rw [readMembers]
      simp only [Reader.plain, bind, Except.bind, hField,
        hScalar.isWhole, if_true]
      exact ih hRest

/- Only the listed fields of a record matter, in their order. -/
theorem Orderless.readMembers_lists
    {form : RecordForm σ}
    (hForm : form.Orderless)
    {fields : Entries Draft}
    {members : List (Option String × Draft)}
    (hLists :
      Lists (form.fields.map RecordField.name) fields members)
    (budget : Nat)
    (slots : σ) :
    Checks.Alike
      (form.readMembers budget members slots)
      (form.readMembers budget (keyed fields) slots) := by
  rcases hLists with ⟨extras, hPerm, hExtras⟩
  apply (hForm.readMembers_perm hPerm budget slots).trans
  intro filled
  have hRest := readMembers_extras form budget hExtras
  rw [keyed, List.map_append, readMembers_append]
  unfold keyed at hRest
  simp [Checks.bind_eq_ok_iff, hRest, keyed]

end RecordForm

end Json

end GraphClient

------------------------------------------------------------
-- Reading Alike
------------------------------------------------------------

namespace GraphClient

namespace Json

open Draft (Lists OrDefault keyed given)

variable {σ ε α β : Type}

namespace Reader

/- Read what is given. -/
def ifGiven
    (reader : Reader α)
    (budget : Nat) :
    Option Draft → Except Fault (Option α)
| none => .ok none
| some d => do
    let value ← reader budget d
    return some value

/- What is given or has its default is read alike. -/
theorem exists_ifGiven_iff
    {reader : Reader β}
    {P : Draft → α → Prop}
    {default : α}
    {d? : Option Draft}
    {a : α}
    (hGiven : OrDefault P default d? a)
    (build : α → Except ε β)
    {value : β}
    (hDefault : build default = .ok value)
    {budget : Nat}
    (hRead :
      ∀ d a, P d a → Checks.Alike (reader budget d) (build a))
    {Q : β → Prop} :
    (∃ found,
        ifGiven reader budget d? = .ok found ∧
          Q (found.getD value)) ↔
      ∃ b, build a = .ok b ∧ Q b := by
  cases d? with
  | none =>
      subst hGiven
      simp [ifGiven, hDefault]
  | some d =>
      have hAlike := hRead d a hGiven
      simp only [ifGiven, Checks.bind_eq_ok_iff,
        Checks.pure_eq_ok_iff]
      constructor
      · rintro ⟨found, ⟨b, hb, rfl⟩, hQ⟩
        exact ⟨b, (hAlike b).mp hb, hQ⟩
      · rintro ⟨b, hb, hQ⟩
        exact ⟨some b, ⟨b, (hAlike b).mpr hb, rfl⟩, hQ⟩

/- What is given is read as it is, and so is a default. -/
theorem exists_ifGiven_eq_ok
    {reader : Reader α}
    {P : Draft → α → Prop}
    {budget : Nat}
    (hRead : ∀ d a, P d a → reader budget d = .ok a)
    {default : α}
    {d? : Option Draft}
    {a : α}
    (hGiven : OrDefault P default d? a) :
    ∃ found,
      ifGiven reader budget d? = .ok found ∧
        found.getD default = a := by
  cases d? with
  | none => exact ⟨none, rfl, hGiven.symm⟩
  | some d =>
      refine ⟨some a, ?_, rfl⟩
      rw [ifGiven, hRead d a hGiven]
      rfl

/- A map is read alike when its values are. -/
theorem alike_map
    {reader : Reader β}
    {build : α → Except ε β}
    {budget : Nat}
    {members : List (Option String × Draft)}
    {m : OrderedMap α}
    (hMembers :
      List.Forall₂
        (fun member entry =>
          member.1 = some entry.1 ∧
            Checks.Alike (reader (budget + 1) member.2)
              (build entry.2))
        members m.entries) :
    Checks.Alike
      (map reader (budget + 2) (.object members true))
      (m.traverse build) := by
  change Checks.Alike (List.mapM _ members >>= _)
    (List.mapM _ m.entries >>= _)
  apply Checks.Alike.bind
  · apply Checks.alike_mapM
    apply hMembers.imp
    rintro ⟨key, d⟩ entry ⟨rfl, hAlike⟩
    exact hAlike.bind (fun _ _ => by
      rw [Checks.pure_eq_ok_iff, Checks.pure_eq_ok_iff])
  · intro entries n
    rw [Checks.pure_eq_ok_iff]
    exact Checks.pure_eq_ok_iff

/- A checked record is what is made of its filled slots. -/
theorem checked_record_eq_ok_iff
    {form : RecordForm σ}
    {build : (String → Misfit) → σ → Except Misfit α}
    {check : α → Except Misfit β}
    {budget : Nat}
    {members : List (Option String × Draft)}
    {slots : σ}
    {b : β} :
    checked (record form slots build) check (budget + 2)
        (.object members true) =
      .ok b ↔
      ∃ filled,
        form.readMembers (budget + 1) members slots = .ok filled ∧
          ∃ a, build .missing filled = .ok a ∧ check a = .ok b := by
  unfold checked
  rw [Checks.bind_eq_ok_iff]
  constructor
  · rintro ⟨a, hRecord, hCheck⟩
    rcases Checks.bind_eq_ok_iff.mp hRecord with ⟨inner, hInner, hRest⟩
    cases hInner
    rcases Checks.bind_eq_ok_iff.mp hRest with ⟨filled, hFilled, hBuild⟩
    exact ⟨filled, hFilled, a, Checks.mapError_eq_ok_iff.mp hBuild,
      Checks.mapError_eq_ok_iff.mp hCheck⟩
  · rintro ⟨filled, hFilled, a, hBuild, hCheck⟩
    refine ⟨a, ?_, Checks.mapError_eq_ok_iff.mpr hCheck⟩
    rw [record_eq hFilled]
    exact Checks.mapError_eq_ok_iff.mpr hBuild

/- A value that passes when it has a form is read in that form. -/
theorem toOption_variant
    {name : String}
    {form? : Draft → Option α}
    {budget : Nat}
    {d : Draft}
    (hPasses :
      ∀ value, form? d = some value → Passes budget d) :
    (variant name form? budget d).toOption = form? d := by
  cases hForm : form? d with
  | some value =>
      rw [variant_eq_ok (hPasses value hForm) hForm]
      rfl
  | none =>
      unfold variant
      rw [Checks.toOption_bind]
      cases any budget d with
      | ok j =>
          simp only [hForm]
          rfl
      | error e => rfl

/- The result of a map is made of those of its values. -/
theorem toOption_map
    {reader : Reader β}
    {item : α → Option β}
    {budget : Nat}
    {members : List (Option String × Draft)}
    {entries : Entries α}
    (hMembers :
      List.Forall₂
        (fun member entry =>
          member.1 = some entry.1 ∧
            (reader (budget + 1) member.2).toOption = item entry.2)
        members entries) :
    (map reader (budget + 2) (.object members true)).toOption =
      entries.gather? item := by
  change Except.toOption (List.mapM _ members >>= _) = _
  rw [Checks.toOption_bind, Checks.toOption_mapM]
  · exact Option.map_eq_bind.symm
  · apply hMembers.imp
    rintro ⟨key, d⟩ entry ⟨rfl, hRead⟩
    change Except.toOption (reader (budget + 1) d >>= _) = _
    rw [Checks.toOption_bind, hRead]
    exact Option.map_eq_bind.symm

/- The result of a checked record is made of its filled slots. -/
theorem toOption_checked_record
    {form : RecordForm σ}
    {build : (String → Misfit) → σ → Except Misfit α}
    {check : α → Except Misfit β}
    {budget : Nat}
    {members : List (Option String × Draft)}
    {slots : σ} :
    (checked (record form slots build) check (budget + 2)
        (.object members true)).toOption =
      (form.readMembers (budget + 1) members slots).toOption.bind
        (fun filled =>
          (build .missing filled).toOption.bind
            (fun a => (check a).toOption)) := by
  change
    ((form.readMembers (budget + 1) members slots >>= fun filled =>
        (build .missing filled).mapError .misfit) >>= fun a =>
      (check a).mapError .misfit).toOption = _
  simp only [Checks.toOption_bind, Checks.toOption_mapError,
    Option.bind_assoc]

/- What is given or has its default is read as it is meant. -/
theorem toOption_ifGiven_getD
    {reader : Reader β}
    {budget : Nat}
    {P : Draft → α → Prop}
    {item : α → Option β}
    (hRead : ∀ d a, P d a → (reader budget d).toOption = item a)
    {default : α}
    {value : β}
    (hDefault : item default = some value)
    {d? : Option Draft}
    {a : α}
    (hGiven : OrDefault P default d? a) :
    (ifGiven reader budget d?).toOption.map
        (fun found => found.getD value) =
      item a := by
  cases d? with
  | none =>
      rw [show a = default from hGiven, hDefault]
      rfl
  | some d =>
      rw [ifGiven, Checks.toOption_bind, hRead d a hGiven]
      cases item a <;> rfl

/- What has to be given is read as it is meant. -/
theorem bind_ifGiven
    {γ : Type}
    {reader : Reader β}
    {budget : Nat}
    {item : Draft → Option β}
    (hRead : ∀ d, (reader budget d).toOption = item d)
    {d? : Option Draft}
    {next : Option β → Option γ}
    {next' : β → Option γ}
    (hNone : next none = none)
    (hNext : ∀ b, next (some b) = next' b) :
    (ifGiven reader budget d?).toOption.bind next =
      d?.bind (fun d => (item d).bind next') := by
  cases d? with
  | none => exact hNone
  | some d =>
      rw [ifGiven, Checks.toOption_bind, hRead, Option.bind_assoc]
      exact congrArg (Option.bind _) (funext hNext)

end Reader

/- A given field is read into its slot, and one left out is not. -/
theorem RecordForm.readMembers_given
    {form : RecordForm σ}
    {key name : String}
    {slot : σ → Option α}
    {fill : σ → α → σ}
    {reader : Reader α}
    (put : Option α → σ)
    (hField : form.field? key = some (.of name slot fill reader))
    (hEmpty : slot (put none) = none)
    (hFill : ∀ value, fill (put none) value = put (some value))
    {budget : Nat}
    {d? : Option Draft}
    {rest : List (String × Option Draft)}
    {next : Option α → Except Fault σ}
    (hNext :
      ∀ value?,
        form.readMembers budget (keyed (given rest)) (put value?) =
          next value?) :
    form.readMembers budget (keyed (given ((key, d?) :: rest)))
        (put none) =
      reader.ifGiven budget d? >>= next := by
  rw [← funext hNext]
  cases d? with
  | none => rfl
  | some d =>
      change form.readMembers budget
        ((some key, d) :: keyed (given rest)) (put none) = _
      cases hRead : reader budget d with
      | ok value =>
          rw [readMembers_of hField hRead hEmpty, Reader.ifGiven,
            hRead, hFill]
          rfl
      | error e =>
          have hSet :
              (RecordField.of name slot fill reader).isSet
                  (put none) =
                false := by
            unfold RecordField.of
            simp only [hEmpty, Option.isSome_none]
          have hFault :
              (RecordField.of name slot fill reader).read budget d
                  (put none) =
                .error e := by
            unfold RecordField.of
            simp only [hRead]
            rfl
          rw [readMembers_cons, step, Reader.ifGiven, hRead]
          simp only [Reader.plain, hField, hSet, hFault, bind,
            Except.bind, Bool.false_eq_true, if_false]

end Json

end GraphClient
