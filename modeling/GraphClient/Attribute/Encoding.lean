import GraphClient.Attribute.Value
import GraphClient.Json.Reader
/-
  Attribute values as JSON.

  Key definitions include:
    * `GraphClient.Value.toJson`
    * `GraphClient.Value.written`
    * `GraphClient.Value.ofDraft?`
    * `GraphClient.Bag.toJson`
    * `GraphClient.Bag.toSortedJson`
    * `GraphClient.Bag.reader`

  There are two encoders: one makes the values of a payload,
  the other serializes a value as it is.  Both write a date as
  its text; a number that is not finite is null in a payload,
  and is left to the writer otherwise.  What is read is never
  a date: a JSON string is a text.  An integer beyond 64 signed
  bits becomes a floating-point number.
-/

------------------------------------------------------------
-- Writing
------------------------------------------------------------

namespace GraphClient

namespace Value

/- The JSON of a value in a payload. -/
def toJson : Value → Json
| .bool b => .bool b
| .int n => .int n.toInt
| .float x => .ofFloat x
| .string s => .string s
| .dateTime t => .string t.text

/- What a value is serialized as. -/
def written : Value → Json
| .bool b => .bool b
| .int n => .int n.toInt
| .float x => .float x
| .string s => .string s
| .dateTime t => .string t.text

end Value

namespace Bag

/- The values of a bag for a payload, in its own order. -/
def fields
    (bag : Bag) :
    Entries Json :=
  bag.entries.map (fun entry => (entry.1, entry.2.toJson))

/- What a bag is serialized as, in its own order. -/
def toJson
    (bag : Bag) :
    Json :=
  .object
    (bag.entries.map (fun entry => (entry.1, entry.2.written)))

/- The JSON object of a bag in a payload, ordered by key. -/
def toSortedJson
    (bag : Bag) :
    Json :=
  .object (Json.sorted bag.fields)

end Bag

end GraphClient

------------------------------------------------------------
-- Reading
------------------------------------------------------------

namespace GraphClient

namespace Value

/- The size of the smallest integer of 64 bits. -/
def wordHalf : Nat :=
  Nat.pow 2 63

/- Whether an integer has at most 64 bits with its sign. -/
def FitsWord
    (n : Int) :
    Prop :=
  -(wordHalf : Int) ≤ n ∧ n < wordHalf

instance
    (n : Int) :
    Decidable (FitsWord n) := by
  unfold FitsWord
  infer_instance

/- The value of a number. -/
def ofNumber : Number → Value
| .int n =>
    if FitsWord n then
      .int (Int64.ofInt n)
    else
      .float (Binary64.ofInt n)
| .float x => .float x

/- The value that a draft spells, if it is no bracket or null. -/
def ofDraft? : Json.Draft → Option Value
| .bool b => some (.bool b)
| .number n => n.value?.map ofNumber
| .string s => s.map .string
| _ => none

/- Read a value. -/
def reader : Json.Reader Value :=
  Json.Reader.variant "AttributeValue" ofDraft?

end Value

namespace Bag

/- Read a bag. -/
def reader : Json.Reader Bag :=
  Json.Reader.map Value.reader

end Bag

end GraphClient
