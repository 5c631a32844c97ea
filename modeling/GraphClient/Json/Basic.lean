import GraphClient.OrderedMap
import GraphClient.Number.Layout
import GraphClient.Number.Reading
/-
  JSON values.

  Key definitions include:
    * `GraphClient.Json`
    * `GraphClient.Json.sorted`
    * `GraphClient.Json.held`
    * `GraphClient.Json.field?`

  An object is a list of fields.  The objects of responses and
  records list their fields by key, in the order of code
  points, without repetition; written values list them in the
  order in which they are declared.
-/

------------------------------------------------------------
-- Values
------------------------------------------------------------

namespace GraphClient

/- A JSON value. -/
inductive Json
| null
| bool (b : Bool)
| int (n : Int)
| float (x : Binary64)
| string (s : String)
| array (items : List Json)
| object (fields : List (String × Json))

end GraphClient

------------------------------------------------------------
-- Parts of Values
------------------------------------------------------------

namespace GraphClient

namespace Json

/- The fields of an object. -/
def fields? : Json → Option (Entries Json)
| .object fields => some fields
| _ => none

/- The items of an array. -/
def items? : Json → Option (List Json)
| .array items => some items
| _ => none

/- The text of a string. -/
def string? : Json → Option String
| .string s => some s
| _ => none

/- The truth value of a boolean. -/
def bool? : Json → Option Bool
| .bool b => some b
| _ => none

/- The integer of a number. -/
def int? : Json → Option Int
| .int n => some n
| _ => none

/- The integer of a number that is not negative. -/
def nat? : Json → Option Nat
| .int n => if 0 ≤ n then some n.toNat else none
| _ => none

/- The field of an object. -/
def field?
    (j : Json)
    (key : String) :
    Option Json :=
  j.fields?.bind (fun fields => fields.lookup key)

end Json

end GraphClient

------------------------------------------------------------
-- Construction
------------------------------------------------------------

namespace GraphClient

namespace Json

/- The value of a number; one that is not finite is null. -/
def ofFloat
    (x : Binary64) :
    Json :=
  if x.isFinite then .float x else .null

/- The value of a number. -/
def ofNumber : Number → Json
| .int n => .int n
| .float x => ofFloat x

/- The array of a list of texts. -/
def strings
    (texts : List String) :
    Json :=
  .array (texts.map .string)

/- Write a field of a list that is ordered by key. -/
def putSorted
    (key : String)
    (value : Json) :
    Entries Json → Entries Json
| [] => [(key, value)]
| (k, v) :: rest =>
    if k = key then
      (k, value) :: rest
    else if key < k then
      (key, value) :: (k, v) :: rest
    else
      (k, v) :: putSorted key value rest

/- The fields ordered by key; of equal keys the last one counts. -/
def sorted
    (fields : Entries Json) :
    Entries Json :=
  fields.foldl
    (fun sorted field => putSorted field.1 field.2 sorted) []

end Json

end GraphClient

------------------------------------------------------------
-- Values in Memory
------------------------------------------------------------

namespace GraphClient

namespace Json

mutual

/-
  The value that is kept when a value is written into memory
  and not as a text: every number in it is finite, and its
  objects are ordered by key.
-/
def held : Json → Json
| .null => .null
| .bool b => .bool b
| .int n => .int n
| .float x => ofFloat x
| .string s => .string s
| .array items => .array (heldItems items)
| .object fields => .object (sorted (heldFields fields))

/- The items of an array, as they are kept. -/
def heldItems : List Json → List Json
| [] => []
| item :: items => held item :: heldItems items

/- The fields of an object, as they are kept. -/
def heldFields : List (String × Json) → List (String × Json)
| [] => []
| (key, value) :: fields =>
    (key, held value) :: heldFields fields

end

end Json

end GraphClient
