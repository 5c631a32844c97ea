import GraphClient.Number.Numeral
import GraphClient.OrderedMap
/-
  What a text spells, up to where it stops being JSON.

  Key definitions include:
    * `GraphClient.Json.Draft`
    * `GraphClient.Json.Draft.read`
    * `GraphClient.Json.Draft.isWhole`

  A draft keeps what the text says without judging it: numerals
  are not evaluated, repeated keys are kept, a string with a
  lone surrogate has no value, and brackets may stay open.
  Whoever reads a draft from left to right meets the faults of
  the text in the order in which the text has them, and may
  pass over parts whose value does not matter.
-/

------------------------------------------------------------
-- Drafts
------------------------------------------------------------

namespace GraphClient

namespace Json

/- A spelled value, or the place where the text breaks off. -/
inductive Draft
| broken
| null
| bool (b : Bool)
| number (n : Numeral)
| string (s : Option String)
| array (items : List Draft) (closed : Bool)
| object (members : List (Option String × Draft)) (closed : Bool)

namespace Draft

mutual

/- Whether the text never breaks off inside a draft. -/
def isWhole : Draft → Bool
| .broken => false
| .null => true
| .bool _ => true
| .number _ => true
| .string _ => true
| .array items closed => areWhole items && closed
| .object members closed => membersAreWhole members && closed

/- Whether the text never breaks off inside the items. -/
def areWhole : List Draft → Bool
| [] => true
| item :: items => isWhole item && areWhole items

/- Whether the text never breaks off inside the members. -/
def membersAreWhole : List (Option String × Draft) → Bool
| [] => true
| (_, value) :: members =>
    isWhole value && membersAreWhole members

end

end Draft

end Json

end GraphClient

------------------------------------------------------------
-- Strings
------------------------------------------------------------

namespace GraphClient

namespace Json

namespace Draft

/- One step through a written string. -/
inductive Symbol
| stop
| char (c : Char)
| lone
deriving DecidableEq, Repr

/- The value of a hexadecimal digit. -/
def hexValue?
    (c : Char) :
    Option Nat :=
  if '0' ≤ c && c ≤ '9' then
    some (c.toNat - 48)
  else if 'a' ≤ c && c ≤ 'f' then
    some (c.toNat - 87)
  else if 'A' ≤ c && c ≤ 'F' then
    some (c.toNat - 55)
  else
    none

/- Read four hexadecimal digits. -/
def hexUnit?
    (cs : List Char) :
    Option (Nat × List Char) :=
  match cs with
  | a :: b :: c :: d :: rest => do
      let a ← hexValue? a
      let b ← hexValue? b
      let c ← hexValue? c
      let d ← hexValue? d
      return (((a * 16 + b) * 16 + c) * 16 + d, rest)
  | _ => none

/- Whether a code unit is the first of a surrogate pair. -/
def isLeading
    (n : Nat) :
    Bool :=
  0xD800 ≤ n && n ≤ 0xDBFF

/- Whether a code unit is the second of a surrogate pair. -/
def isTrailing
    (n : Nat) :
    Bool :=
  0xDC00 ≤ n && n ≤ 0xDFFF

/- Read an escaped code unit, if one follows. -/
def nextUnit?
    (cs : List Char) :
    Option (Nat × List Char) :=
  match cs with
  | '\\' :: 'u' :: rest => hexUnit? rest
  | _ => none

/- The symbol of an escaped code unit and the text after it. -/
def unitSymbol
    (n : Nat)
    (rest : List Char) :
    Symbol × List Char :=
  if isLeading n then
    match nextUnit? rest with
    | some (m, after) =>
        if isTrailing m then
          (.char (Char.ofNat
            (0x10000 + (n - 0xD800) * 0x400 + (m - 0xDC00))),
            after)
        else
          (.lone, rest)
    | none => (.lone, rest)
  else if isTrailing n then
    (.lone, rest)
  else
    (.char (Char.ofNat n), rest)

/- The character of a short escape. -/
def shortEscape?
    (c : Char) :
    Option Char :=
  if c = '"' then
    some '"'
  else if c = '\\' then
    some '\\'
  else if c = '/' then
    some '/'
  else if c = 'b' then
    some (Char.ofNat 8)
  else if c = 't' then
    some (Char.ofNat 9)
  else if c = 'n' then
    some (Char.ofNat 10)
  else if c = 'f' then
    some (Char.ofNat 12)
  else if c = 'r' then
    some (Char.ofNat 13)
  else
    none

/- Read the part of an escape after its backslash. -/
def escape?
    (cs : List Char) :
    Option (Symbol × List Char) :=
  match cs with
  | [] => none
  | c :: rest =>
      if c = 'u' then
        (hexUnit? rest).map (fun (n, rest) => unitSymbol n rest)
      else
        (shortEscape? c).map (fun c => (.char c, rest))

/- Read the next symbol of a string. -/
def symbol?
    (cs : List Char) :
    Option (Symbol × List Char) :=
  match cs with
  | [] => none
  | c :: rest =>
      if c = '"' then
        some (.stop, rest)
      else if c = '\\' then
        escape? rest
      else if c.toNat < 32 then
        none
      else
        some (.char c, rest)

/-
  Read a string after its opening quote.  The answer is none
  when the text breaks off, and has no characters when one of
  them is a lone surrogate.
-/
def readString :
    Nat → List Char → Option (Option (List Char) × List Char)
| 0, _ => none
| fuel + 1, cs =>
    match symbol? cs with
    | none => none
    | some (.stop, rest) => some (some [], rest)
    | some (.char c, rest) =>
        (readString fuel rest).map
          (fun (s, rest) => (s.map (c :: ·), rest))
    | some (.lone, rest) =>
        (readString fuel rest).map (fun (_, rest) => (none, rest))

end Draft

end Json

end GraphClient

------------------------------------------------------------
-- Values
------------------------------------------------------------

namespace GraphClient

namespace Json

namespace Draft

/- Whether a character may stand between the parts of a text. -/
def isSpace
    (c : Char) :
    Bool :=
  c == ' ' || c == '\n' || c == '\t' || c == '\r'

/- Drop the space at the start. -/
def skipSpace
    (cs : List Char) :
    List Char :=
  cs.dropWhile isSpace

/- Read one of the three words. -/
def readWord
    (cs : List Char) :
    Draft × List Char :=
  match cs with
  | 'n' :: 'u' :: 'l' :: 'l' :: rest => (.null, rest)
  | 't' :: 'r' :: 'u' :: 'e' :: rest => (.bool true, rest)
  | 'f' :: 'a' :: 'l' :: 's' :: 'e' :: rest => (.bool false, rest)
  | _ => (.broken, [])

/- Read a numeral. -/
def readNumber
    (cs : List Char) :
    Draft × List Char :=
  match Numeral.read? cs with
  | some (n, rest) => (.number n, rest)
  | none => (.broken, [])

mutual

/- Read a value; nothing is left of a text that breaks off. -/
def readValue : Nat → List Char → Draft × List Char
| 0, _ => (.broken, [])
| fuel + 1, cs =>
    match skipSpace cs with
    | [] => (.broken, [])
    | c :: rest =>
        if c = '"' then
          match readString fuel rest with
          | some (s, rest) => (.string (s.map String.ofList), rest)
          | none => (.broken, [])
        else if c = '[' then
          match skipSpace rest with
          | ']' :: rest => (.array [] true, rest)
          | rest =>
              let (items, closed, rest) := readItems fuel rest
              (.array items closed, rest)
        else if c = '\x7b' then
          match skipSpace rest with
          | '\x7d' :: rest => (.object [] true, rest)
          | rest =>
              let (members, closed, rest) := readMembers fuel rest
              (.object members closed, rest)
        else if c = '-' || Numeral.isDigit c then
          readNumber (c :: rest)
        else
          readWord (c :: rest)

/- Read items up to the closing bracket. -/
def readItems :
    Nat → List Char → List Draft × Bool × List Char
| 0, _ => ([], false, [])
| fuel + 1, cs =>
    let (item, rest) := readValue fuel cs
    match skipSpace rest with
    | ',' :: rest =>
        let (items, closed, rest) := readItems fuel rest
        (item :: items, closed, rest)
    | ']' :: rest => ([item], true, rest)
    | _ => ([item], false, [])

/- Read members up to the closing brace. -/
def readMembers :
    Nat → List Char →
      List (Option String × Draft) × Bool × List Char
| 0, _ => ([], false, [])
| fuel + 1, cs =>
    match skipSpace cs with
    | '"' :: rest =>
        match readString fuel rest with
        | none => ([], false, [])
        | some (key, rest) =>
            let key := key.map String.ofList
            match skipSpace rest with
            | ':' :: rest =>
                let (value, rest) := readValue fuel rest
                match skipSpace rest with
                | ',' :: rest =>
                    let (members, closed, rest) :=
                      readMembers fuel rest
                    ((key, value) :: members, closed, rest)
                | '\x7d' :: rest => ([(key, value)], true, rest)
                | _ => ([(key, value)], false, [])
            | _ => ([(key, .broken)], false, [])
    | _ => ([], false, [])

end

/- Enough fuel for a text: each character takes at most two. -/
def fuelFor
    (cs : List Char) :
    Nat :=
  2 * cs.length + 2

/- Read the value at the start of a text. -/
def read
    (cs : List Char) :
    Draft × List Char :=
  readValue (fuelFor cs) cs

end Draft

end Json

end GraphClient
