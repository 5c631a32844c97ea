import GraphClient.Response.Tables
/-
  When two edges have the same identity.

  Key definitions include:
    * `GraphClient.Binary64.equals`
    * `GraphClient.Json.equals`
    * `GraphClient.EdgeKey.equals`

  Values are compared by what they say.  Integers are apart from
  floating-point numbers, and of these the two zeros are equal;
  arrays are equal item by item, and objects field by field.
-/

------------------------------------------------------------
-- Values
------------------------------------------------------------

namespace GraphClient

/- Whether two numbers are equal; the zeros are. -/
def Binary64.equals
    (x y : Binary64) :
    Bool :=
  !x.isNaN && (x = y || (x.isZero && y.isZero))

namespace Json

mutual

/- Whether two values are equal. -/
def equals : Json → Json → Bool
| .null, .null => true
| .bool b, .bool c => b = c
| .int m, .int n => m = n
| .float x, .float y => x.equals y
| .string s, .string t => s = t
| .array xs, .array ys => equalItems xs ys
| .object fs, .object gs => equalFields fs gs
| _, _ => false

/- Whether two lists have equal items. -/
def equalItems : List Json → List Json → Bool
| [], [] => true
| x :: xs, y :: ys => equals x y && equalItems xs ys
| _, _ => false

/- Whether two lists of fields have equal values for the same keys. -/
def equalFields :
    List (String × Json) → List (String × Json) → Bool
| [], [] => true
| (k, x) :: fs, (l, y) :: gs =>
    k = l && equals x y && equalFields fs gs
| _, _ => false

end

/- Whether two values are equal, or both missing. -/
def equalOptions : Option Json → Option Json → Bool
| none, none => true
| some x, some y => equals x y
| _, _ => false

end Json

end GraphClient

------------------------------------------------------------
-- Keys
------------------------------------------------------------

namespace GraphClient

/- Whether two keys are equal. -/
def EdgeKey.equals
    (key other : EdgeKey) :
    Bool :=
  key.source = other.source && key.target = other.target &&
    Json.equalOptions key.discriminator? other.discriminator?

end GraphClient
