import GraphClient.Json.Basic
/-
  The text of a JSON value.

  Key definitions include:
    * `GraphClient.Json.Spacing`
    * `GraphClient.Json.chars`
    * `GraphClient.Json.compact`
    * `GraphClient.Json.pretty`

  Both layouts escape quotes, backslashes and control
  characters only.  The compact one has no white space; the
  pretty one puts every item on a line of its own, two spaces
  deeper than the brackets around it, and leaves empty
  brackets closed.
-/

------------------------------------------------------------
-- Strings
------------------------------------------------------------

namespace GraphClient

namespace Json

/- A hexadecimal digit, in lower case. -/
def hexDigit
    (n : Nat) :
    Char :=
  Nat.digitChar n

/- The characters that write one character of a string. -/
def escapeChar
    (c : Char) :
    List Char :=
  if c = '"' then
    ['\\', '"']
  else if c = '\\' then
    ['\\', '\\']
  else if c.toNat = 8 then
    ['\\', 'b']
  else if c.toNat = 9 then
    ['\\', 't']
  else if c.toNat = 10 then
    ['\\', 'n']
  else if c.toNat = 12 then
    ['\\', 'f']
  else if c.toNat = 13 then
    ['\\', 'r']
  else if c.toNat < 32 then
    ['\\', 'u', '0', '0',
      hexDigit (c.toNat / 16), hexDigit (c.toNat % 16)]
  else
    [c]

/- The characters of a written string, without its quotes. -/
def escapeChars
    (cs : List Char) :
    List Char :=
  cs.flatMap escapeChar

/- The characters of a written string. -/
def stringChars
    (s : String) :
    List Char :=
  '"' :: (escapeChars s.toList ++ ['"'])

end Json

end GraphClient

------------------------------------------------------------
-- Values
------------------------------------------------------------

namespace GraphClient

namespace Json

/- The white space of a layout. -/
structure Spacing where
  colon : List Char
  line : Nat → List Char

/- No white space. -/
def Spacing.none : Spacing :=
  ⟨[], fun _ => []⟩

/- A line for each item, indented by two spaces a level. -/
def Spacing.lines : Spacing :=
  ⟨[' '], fun depth =>
    '\n' :: List.replicate (2 * depth) ' '⟩

/- The characters of a number. -/
def floatChars
    (x : Binary64) :
    List Char :=
  if x.isFinite then
    x.numeral.chars
  else
    "null".toList

/- The characters of a truth value. -/
def boolChars
    (b : Bool) :
    List Char :=
  if b then "true".toList else "false".toList

/- The comma before every item but the first. -/
def comma
    (first : Bool) :
    List Char :=
  if first then [] else [',']

/- The line before a closing bracket; empty brackets have none. -/
def Spacing.closing
    (spacing : Spacing)
    (depth : Nat)
    (isEmpty : Bool) :
    List Char :=
  if isEmpty then [] else spacing.line depth

mutual

/- The characters of a value at a depth. -/
def charsAt
    (spacing : Spacing)
    (depth : Nat) :
    Json → List Char
| .null => "null".toList
| .bool b => boolChars b
| .int n => (Numeral.ofInt n).chars
| .float x => floatChars x
| .string s => stringChars s
| .array items =>
    '[' :: (itemsAt spacing (depth + 1) true items ++
      (spacing.closing depth items.isEmpty ++ [']']))
| .object fields =>
    '\x7b' :: (fieldsAt spacing (depth + 1) true fields ++
      (spacing.closing depth fields.isEmpty ++ ['\x7d']))

/- The characters of the items of an array. -/
def itemsAt
    (spacing : Spacing)
    (depth : Nat)
    (first : Bool) :
    List Json → List Char
| [] => []
| item :: items =>
    comma first ++ (spacing.line depth ++
      (charsAt spacing depth item ++
        itemsAt spacing depth false items))

/- The characters of the fields of an object. -/
def fieldsAt
    (spacing : Spacing)
    (depth : Nat)
    (first : Bool) :
    List (String × Json) → List Char
| [] => []
| (key, value) :: fields =>
    comma first ++ (spacing.line depth ++
      (stringChars key ++ (':' :: (spacing.colon ++
        (charsAt spacing depth value ++
          fieldsAt spacing depth false fields)))))

end

/- The characters of a value. -/
def chars
    (spacing : Spacing)
    (j : Json) :
    List Char :=
  charsAt spacing 0 j

/- The text without white space. -/
def compact
    (j : Json) :
    String :=
  String.ofList (j.chars .none)

/- The text with a line for each item. -/
def pretty
    (j : Json) :
    String :=
  String.ofList (j.chars .lines)

end Json

end GraphClient
