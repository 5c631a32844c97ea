import GraphClient.Calendar.Layout
import GraphClient.Number.Layout
import GraphClient.Number.Reading
import GraphClient.OrderedMap
/-
  The values of attributes.

  Key definitions include:
    * `GraphClient.Value`
    * `GraphClient.Value.text`
    * `GraphClient.Value.literal`
    * `GraphClient.Bag`

  A value is a truth value, a signed integer of 64 bits, a
  floating-point number, a text, or a date with a time.  A text
  is never taken for a date by itself; it counts as one where
  a date is asked for and the text spells one.
-/

------------------------------------------------------------
-- Values
------------------------------------------------------------

namespace GraphClient

/- The value of an attribute. -/
inductive Value
| bool (b : Bool)
| int (n : Int64)
| float (x : Binary64)
| string (s : String)
| dateTime (t : Calendar.DateTime)
deriving DecidableEq

/- The values of a node or an edge, by attribute name. -/
abbrev Bag : Type :=
  OrderedMap Value

namespace Value

/- The name of the kind of a value. -/
def kind : Value → String
| .bool _ => "bool"
| .int _ => "int"
| .float _ => "float"
| .string _ => "string"
| .dateTime _ => "datetime"

end Value

end GraphClient

------------------------------------------------------------
-- Views
------------------------------------------------------------

namespace GraphClient

namespace Value

/- The text of a string. -/
def string? : Value → Option String
| .string s => some s
| _ => none

/- The integer. -/
def int? : Value → Option Int64
| .int n => some n
| _ => none

/- The floating-point number; integers are rounded to one. -/
def float? : Value → Option Binary64
| .int n => some (Binary64.ofInt n.toInt)
| .float x => some x
| _ => none

/- The truth value. -/
def bool? : Value → Option Bool
| .bool b => some b
| _ => none

/- The date and time, also of a text that spells one. -/
def dateTime? : Value → Option Calendar.DateTime
| .dateTime t => some t
| .string s => Calendar.DateTime.parse? s
| _ => none

end Value

end GraphClient

------------------------------------------------------------
-- Texts
------------------------------------------------------------

namespace GraphClient

namespace Value

/- The text of an integer. -/
def intText
    (n : Int) :
    String :=
  (Numeral.ofInt n).text

/- The plain text of a value. -/
def text : Value → String
| .bool b => if b then "true" else "false"
| .int n => intText n.toInt
| .float x => x.plainText
| .string s => s
| .dateTime t => t.text

/- A character inside a string literal. -/
def literalChar
    (c : Char) :
    List Char :=
  if c = '"' then ['\\', '"'] else [c]

/- A string literal: only quotes are escaped. -/
def stringLiteral
    (s : String) :
    String :=
  String.ofList ('"' :: (s.toList.flatMap literalChar ++ ['"']))

/- The literal that denotes a value in a statement. -/
def literal : Value → String
| .string s => stringLiteral s
| .dateTime t => stringLiteral t.text
| v => v.text

end Value

end GraphClient
