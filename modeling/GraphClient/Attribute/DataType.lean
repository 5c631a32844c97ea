import GraphClient.Attribute.Value
/-
  The types of attributes.

  Key definitions include:
    * `GraphClient.DataType`
    * `GraphClient.DataType.keyword`
    * `GraphClient.DataType.accepts`

  A type accepts the values that may be stored under it.
  Integers may stand for floating-point numbers, and texts that
  spell a date may stand for dates; nothing else is converted.
-/

------------------------------------------------------------
-- Types
------------------------------------------------------------

namespace GraphClient

/- The type of an attribute. -/
inductive DataType
| int
| uint
| float
| double
| bool
| string
| dateTime
deriving DecidableEq, Repr

namespace DataType

/- All types. -/
def all : List DataType :=
  [.int, .uint, .float, .double, .bool, .string, .dateTime]

/- The keyword of a type. -/
def keyword : DataType → String
| .int => "INT"
| .uint => "UINT"
| .float => "FLOAT"
| .double => "DOUBLE"
| .bool => "BOOL"
| .string => "STRING"
| .dateTime => "DATETIME"

/- The type with a keyword. -/
def ofKeyword?
    (word : String) :
    Option DataType :=
  all.find? (fun type => type.keyword = word)

end DataType

end GraphClient

------------------------------------------------------------
-- Acceptance
------------------------------------------------------------

namespace GraphClient

namespace DataType

/- Whether a value may be stored under a type. -/
def accepts : DataType → Value → Bool
| .int, .int _ => true
| .uint, .int n => 0 ≤ n.toInt
| .float, .int _ => true
| .float, .float _ => true
| .double, .int _ => true
| .double, .float _ => true
| .bool, .bool _ => true
| .string, .string _ => true
| .dateTime, v => v.dateTime?.isSome
| _, _ => false

/- How messages name the values that a type accepts. -/
def expected : DataType → String
| .int => "int"
| .uint => "non-negative int"
| .float => "float or int"
| .double => "float or int"
| .bool => "bool"
| .string => "str"
| .dateTime => "datetime"

end DataType

end GraphClient
