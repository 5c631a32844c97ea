import GraphClient.Json.Basic
import GraphClient.Json.Draft
import GraphClient.Text.Quoted
/-
  Typed reading of JSON texts.

  Key definitions include:
    * `GraphClient.Json.Fault`
    * `GraphClient.Json.Reader`
    * `GraphClient.Json.Reader.map`
    * `GraphClient.Json.Reader.variant`
    * `GraphClient.Json.Reader.record`
    * `GraphClient.Json.Reader.run`

  A reader goes through a draft once, from left to right, and
  stops at the first fault: the text is no JSON, or it is JSON
  of the wrong shape.  Shape is judged as soon as it is known,
  so an early misfit wins over a later break in the text.
  Brackets may be nested 127 deep in what is read; parts that
  are passed over have no such limit.
-/

------------------------------------------------------------
-- Faults
------------------------------------------------------------

namespace GraphClient

namespace Json

/- What stands where something else was expected. -/
inductive Found
| null
| bool (b : Bool)
| int (n : Int)
| float (x : Binary64)
| string (s : String)
| sequence
| map

/- How a misfit names what it found. -/
def Found.text : Found → String
| .null => "null"
| .bool b =>
    "boolean `" ++ (if b then "true" else "false") ++ "`"
| .int n => "integer `" ++ (Numeral.ofInt n).text ++ "`"
| .float x => "floating point `" ++ x.numeral.text ++ "`"
| .string s => "string " ++ Text.quoted s
| .sequence => "sequence"
| .map => "map"

/- Why JSON does not fit the expected shape. -/
inductive Misfit
| missing (field : String)
| duplicate (field : String)
| wrongType (found : Found) (expected : String)
| wrongValue (found : Found) (expected : String)
| wrongLength (length : Nat) (record : String) (fields : Nat)
| noVariant (name : String)
| refused (reason : String)

/- The message of a misfit. -/
def Misfit.message : Misfit → String
| .missing field => "missing field `" ++ field ++ "`"
| .duplicate field => "duplicate field `" ++ field ++ "`"
| .wrongType found expected =>
    "invalid type: " ++ found.text ++ ", expected " ++ expected
| .wrongValue found expected =>
    "invalid value: " ++ found.text ++ ", expected " ++ expected
| .wrongLength length record fields =>
    "invalid length " ++ toString length ++ ", expected struct " ++
      record ++ " with " ++ toString fields ++ " elements"
| .noVariant name =>
    "data did not match any variant of untagged enum " ++ name
| .refused reason => reason

/- Why a text cannot be read. -/
inductive Fault
| malformed
| misfit (m : Misfit)

end Json

end GraphClient

------------------------------------------------------------
-- Readers
------------------------------------------------------------

namespace GraphClient

namespace Json

/- Reads a draft, given how many brackets may still be opened. -/
abbrev Reader (α : Type) : Type :=
  Nat → Draft → Except Fault α

namespace Reader

/- The number of brackets that a text may not reach. -/
def nestingLimit : Nat :=
  128

/- Open a bracket. -/
def enter : Nat → Except Fault Nat
| budget + 2 => .ok (budget + 1)
| _ => .error .malformed

/- Require that a bracket was closed. -/
def close
    (closed : Bool) :
    Except Fault Unit :=
  if closed then .ok () else .error .malformed

/- The text of a string or key. -/
def plain
    (s : Option String) :
    Except Fault String :=
  match s with
  | some s => .ok s
  | none => .error .malformed

/- The value of a numeral. -/
def number
    (n : Numeral) :
    Except Fault Number :=
  match n.value? with
  | some value => .ok value
  | none => .error .malformed

/- Name what a draft holds. -/
def found : Draft → Except Fault Found
| .broken => .error .malformed
| .null => .ok .null
| .bool b => .ok (.bool b)
| .number n => do
    match ← number n with
    | .int i => return .int i
    | .float x => return .float x
| .string s => do
    return .string (← plain s)
| .array _ _ => .ok .sequence
| .object _ _ => .ok .map

/- Report a draft of the wrong type. -/
def wrongType
    {α : Type}
    (expected : String)
    (d : Draft) :
    Except Fault α := do
  throw (.misfit (.wrongType (← found d) expected))

/- Read a string. -/
def string : Reader String :=
  fun _ d =>
    match d with
    | .string (some s) => .ok s
    | d => wrongType "a string" d

/- Read a truth value. -/
def bool : Reader Bool :=
  fun _ d =>
    match d with
    | .bool b => .ok b
    | d => wrongType "a boolean" d

/- Read a size: an integer of at most 64 bits, not negative. -/
def size : Reader Nat :=
  fun _ d =>
    match d with
    | .number n => do
        match ← number n with
        | .int i =>
            if 0 ≤ i then
              return i.toNat
            else
              throw (.misfit (.wrongValue (.int i) "usize"))
        | .float _ => wrongType "usize" d
    | d => wrongType "usize" d

/- Read a list of items. -/
def list
    {α : Type}
    (item : Reader α) :
    Reader (List α) :=
  fun budget d =>
    match d with
    | .array items closed => do
        let budget ← enter budget
        let values ← items.mapM (item budget)
        close closed
        return values
    | d => wrongType "a sequence" d

/- Read a map: first position, last value of each key. -/
def map
    {α : Type}
    (value : Reader α) :
    Reader (OrderedMap α) :=
  fun budget d =>
    match d with
    | .object members closed => do
        let budget ← enter budget
        let entries ← members.mapM (fun member => do
          let key ← plain member.1
          let v ← value budget member.2
          return (key, v))
        close closed
        return OrderedMap.ofList entries
    | d => wrongType "a map" d

end Reader

end Json

end GraphClient

------------------------------------------------------------
-- Reading Any Value
------------------------------------------------------------

namespace GraphClient

namespace Json

namespace Reader

mutual

/- Read a value of any shape, its objects ordered by key. -/
def any
    (budget : Nat)
    (d : Draft) :
    Except Fault Json :=
  match d with
  | .broken => .error .malformed
  | .null => .ok .null
  | .bool b => .ok (.bool b)
  | .number n => do
      return ofNumber (← number n)
  | .string s => do
      return .string (← plain s)
  | .array items closed => do
      let budget ← enter budget
      let items ← anyItems budget items
      close closed
      return .array items
  | .object members closed => do
      let budget ← enter budget
      let fields ← anyMembers budget members
      close closed
      return .object (sorted fields)

/- Read items of any shape. -/
def anyItems
    (budget : Nat)
    (items : List Draft) :
    Except Fault (List Json) :=
  match items with
  | [] => .ok []
  | item :: items => do
      let item ← any budget item
      let items ← anyItems budget items
      return item :: items

/- Read members of any shape. -/
def anyMembers
    (budget : Nat)
    (members : List (Option String × Draft)) :
    Except Fault (Entries Json) :=
  match members with
  | [] => .ok []
  | (key, value) :: members => do
      let key ← plain key
      let value ← any budget value
      let fields ← anyMembers budget members
      return (key, value) :: fields

end

/- Read the fields of an object, ordered by key. -/
def fields : Reader (Entries Json) :=
  fun budget d =>
    match d with
    | .object members closed => do
        let budget ← enter budget
        let fields ← anyMembers budget members
        close closed
        return sorted fields
    | d => wrongType "a map" d

/- The name that a draft gives: a string, or the key of a null. -/
def word? : Draft → Option String
| .string s => s
| .object [(key, .null)] _ => key
| _ => none

/- The texts of an array of strings. -/
def texts? : List Draft → Option (List String)
| [] => some []
| .string s :: rest => do
    let s ← s
    let rest ← texts? rest
    return s :: rest
| _ => none

/-
  The value of a key: none if the key comes twice, and an
  absent one if it does not come at all.
-/
def member?
    (members : List (Option String × Draft))
    (key : String) :
    Option (Option Draft) :=
  match members.filter (fun member => member.1 = some key) with
  | [] => some none
  | [member] => some (some member.2)
  | _ => none

/- The value of a key that may be absent, in a given form. -/
def optional?
    {α : Type}
    (members : List (Option String × Draft))
    (key : String)
    (form? : Draft → Option α) :
    Option (Option α) :=
  match member? members key with
  | none => none
  | some none => some none
  | some (some d) => (form? d).map some

/- The value of a key that may not be absent, in a given form. -/
def member
    {α : Type}
    (members : List (Option String × Draft))
    (key : String)
    (form? : Draft → Option α) :
    Option α :=
  (optional? members key form?).bind id

/-
  Read a value that may take several forms.  The whole value
  has to be JSON before its form is judged.
-/
def variant
    {α : Type}
    (name : String)
    (form? : Draft → Option α) :
    Reader α :=
  fun budget d => do
    let _ ← any budget d
    match form? d with
    | some value => return value
    | none => throw (.misfit (.noVariant name))

end Reader

end Json

end GraphClient

------------------------------------------------------------
-- Reading Records
------------------------------------------------------------

namespace GraphClient

namespace Json

/- A field of a record whose parts are collected in slots. -/
structure RecordField (σ : Type) where
  name : String
  isSet : σ → Bool
  read : Nat → Draft → σ → Except Fault σ

/- A field that is read into an empty slot. -/
def RecordField.of
    {σ α : Type}
    (name : String)
    (slot : σ → Option α)
    (fill : σ → α → σ)
    (reader : Reader α) :
    RecordField σ where
  name := name
  isSet := fun slots => (slot slots).isSome
  read := fun budget d slots => do
    return fill slots (← reader budget d)

/- The name of a record and its fields in declaration order. -/
structure RecordForm (σ : Type) where
  name : String
  fields : List (RecordField σ)

namespace RecordForm

variable {σ α : Type}

/- The field with a name. -/
def field?
    (form : RecordForm σ)
    (name : String) :
    Option (RecordField σ) :=
  form.fields.find? (fun field => field.name = name)

/- Read members: unknown ones are passed over, none comes twice. -/
def readMembers
    (form : RecordForm σ)
    (budget : Nat) :
    List (Option String × Draft) → σ → Except Fault σ
| [], slots => .ok slots
| (key, d) :: members, slots => do
    let key ← Reader.plain key
    match form.field? key with
    | none =>
        if d.isWhole then
          form.readMembers budget members slots
        else
          throw .malformed
    | some field =>
        if field.isSet slots then
          throw (.misfit (.duplicate key))
        else
          let slots ← field.read budget d slots
          form.readMembers budget members slots

/- Read items into the fields in declaration order. -/
def readItems
    (budget : Nat) :
    List (RecordField σ) → List Draft → σ → Except Fault σ
| field :: fields, d :: items, slots => do
    let slots ← field.read budget d slots
    readItems budget fields items slots
| _, _, slots => .ok slots

end RecordForm

namespace Reader

/-
  Read a record, written as an object of its fields or as an
  array of them in declaration order.  `build` is given the
  misfit of a missing field, and runs before the end of an
  array is checked: items too many are no JSON of this kind.
-/
def record
    {σ α : Type}
    (form : RecordForm σ)
    (slots : σ)
    (build : (String → Misfit) → σ → Except Misfit α) :
    Reader α :=
  fun budget d =>
    match d with
    | .object members closed => do
        let budget ← enter budget
        let slots ← form.readMembers budget members slots
        close closed
        (build .missing slots).mapError .misfit
    | .array items closed => do
        let budget ← enter budget
        let slots ← RecordForm.readItems budget form.fields items slots
        close (closed || form.fields.length ≤ items.length)
        let absent := fun _ =>
          .wrongLength items.length form.name form.fields.length
        let value ← (build absent slots).mapError .misfit
        close (closed && items.length ≤ form.fields.length)
        return value
    | d => wrongType ("struct " ++ form.name) d

/- The slot of a required field. -/
def required
    {α : Type}
    (absent : String → Misfit)
    (field : String)
    (slot : Option α) :
    Except Misfit α :=
  match slot with
  | some value => .ok value
  | none => .error (absent field)

/- Read with a further check of the value. -/
def checked
    {α β : Type}
    (reader : Reader α)
    (check : α → Except Misfit β) :
    Reader β :=
  fun budget d => do
    let value ← reader budget d
    (check value).mapError .misfit

end Reader

end Json

end GraphClient

------------------------------------------------------------
-- Reading Texts
------------------------------------------------------------

namespace GraphClient

namespace Json

namespace Reader

/- Read a text; only space may follow the value. -/
def run
    {α : Type}
    (reader : Reader α)
    (text : String) :
    Except Fault α := do
  let (d, rest) := Draft.read text.toList
  let value ← reader nestingLimit d
  close (Draft.skipSpace rest).isEmpty
  return value

end Reader

/- Read a text as a value of any shape. -/
def parse
    (text : String) :
    Except Fault Json :=
  Reader.run Reader.any text

end Json

end GraphClient

------------------------------------------------------------
-- Decoding Values
------------------------------------------------------------

namespace GraphClient

namespace Json

/- Name what a value is. -/
def found : Json → Found
| .null => .null
| .bool b => .bool b
| .int n => .int n
| .float x => .float x
| .string s => .string s
| .array _ => .sequence
| .object _ => .map

/- Take a value as the fields of an object. -/
def asFields
    (j : Json) :
    Except Misfit (Entries Json) :=
  match j with
  | .object fields => .ok fields
  | j => .error (.wrongType j.found "a map")

/- Take a value as an array of objects. -/
def asObjects
    (j : Json) :
    Except Misfit (List (Entries Json)) :=
  match j with
  | .array items => items.mapM asFields
  | j => .error (.wrongType j.found "a sequence")

end Json

end GraphClient
