import GraphClient.Calendar.DateTime
import GraphClient.Number.Numeral
import GraphClient.Text.Blank
/-
  The texts of dates and times.

  Key definitions include:
    * `GraphClient.Calendar.DateTime.text`
    * `GraphClient.Calendar.DateTime.parse?`

  A date and time is written `2024-01-31 08:05:00`.  A year
  outside 0 to 9999 has a sign, and no year has fewer than four
  digits.  Reading is more lenient: white space may stand
  before each number, date and time may be parted by a letter,
  by any white space or by nothing, numbers need no leading
  zeros, and a date alone denotes its midnight.
-/

------------------------------------------------------------
-- Writing
------------------------------------------------------------

namespace GraphClient

namespace Calendar

/- The digits of a number, filled up with zeros. -/
def padded
    (width n : Nat) :
    List Char :=
  let digits := Numeral.digitsOf n
  List.replicate (width - digits.length) '0' ++ digits

/- The characters of a year. -/
def yearChars
    (year : Int) :
    List Char :=
  if year < 0 then
    '-' :: padded 4 year.natAbs
  else if 9999 < year then
    '+' :: padded 4 year.natAbs
  else
    padded 4 year.natAbs

/- The characters of a date. -/
def Date.chars
    (d : Date) :
    List Char :=
  yearChars d.year ++
    ('-' :: (padded 2 d.month ++ ('-' :: padded 2 d.day)))

/- The characters of a time of day. -/
def Clock.chars
    (c : Clock) :
    List Char :=
  padded 2 c.hour ++
    (':' :: (padded 2 c.minute ++ (':' :: padded 2 c.second)))

/- The characters of a date and time. -/
def DateTime.chars
    (t : DateTime) :
    List Char :=
  t.date.chars ++ (' ' :: t.clock.chars)

/- The text of a date and time. -/
def DateTime.text
    (t : DateTime) :
    String :=
  String.ofList t.chars

end Calendar

end GraphClient

------------------------------------------------------------
-- Reading Numbers
------------------------------------------------------------

namespace GraphClient

namespace Calendar

/- Split off at most so many digits. -/
def spanDigits :
    Nat → List Char → List Char × List Char
| 0, cs => ([], cs)
| _ + 1, [] => ([], [])
| limit + 1, c :: cs =>
    if Numeral.isDigit c then
      let (digits, rest) := spanDigits limit cs
      (c :: digits, rest)
    else
      ([], c :: cs)

/- Read from one to so many digits. -/
def readDigits?
    (limit : Nat)
    (cs : List Char) :
    Option (Nat × List Char) :=
  match spanDigits limit cs with
  | ([], _) => none
  | (digits, rest) => some (Numeral.valueOf digits, rest)

/- Read one or two digits, after any white space. -/
def readNumber?
    (cs : List Char) :
    Option (Nat × List Char) :=
  readDigits? 2 (Text.trimLeft cs)

/- Read a year; after a sign it may have any number of digits. -/
def readYear?
    (cs : List Char) :
    Option (Int × List Char) :=
  match Text.trimLeft cs with
  | '-' :: rest =>
      (readDigits? rest.length rest).map (fun (n, rest) => (-(n : Int), rest))
  | '+' :: rest =>
      (readDigits? rest.length rest).map (fun (n, rest) => ((n : Int), rest))
  | rest =>
      (readDigits? 4 rest).map (fun (n, rest) => ((n : Int), rest))

/- Read one given character. -/
def readMark?
    (mark : Char)
    (cs : List Char) :
    Option (List Char) :=
  match cs with
  | [] => none
  | c :: rest => if c = mark then some rest else none

end Calendar

end GraphClient

------------------------------------------------------------
-- Reading Dates and Times
------------------------------------------------------------

namespace GraphClient

namespace Calendar

/- What stands between a date and its time. -/
inductive Separator
| space
| letter
deriving DecidableEq, Repr

/- Read what stands between a date and its time. -/
def Separator.read? : Separator → List Char → Option (List Char)
| .space, cs => some (Text.trimLeft cs)
| .letter, cs => readMark? 'T' cs

/- Read a date. -/
def Date.read?
    (cs : List Char) :
    Option (Date × List Char) := do
  let (year, cs) ← readYear? cs
  let cs ← readMark? '-' cs
  let (month, cs) ← readNumber? cs
  let cs ← readMark? '-' cs
  let (day, cs) ← readNumber? cs
  let date ← Date.of? year month day
  return (date, cs)

/- Read a time of day. -/
def Clock.read?
    (cs : List Char) :
    Option (Clock × List Char) := do
  let (hour, cs) ← readNumber? cs
  let cs ← readMark? ':' cs
  let (minute, cs) ← readNumber? cs
  let cs ← readMark? ':' cs
  let (second, cs) ← readNumber? cs
  let clock ← Clock.of? hour minute second
  return (clock, cs)

/- Read a date, a separator and a time, and nothing else. -/
def DateTime.read?
    (separator : Separator)
    (cs : List Char) :
    Option DateTime := do
  let (date, cs) ← Date.read? cs
  let cs ← separator.read? cs
  let (clock, cs) ← Clock.read? cs
  if cs.isEmpty then some ⟨date, clock⟩ else none

/- Read a date, and nothing else, as its midnight. -/
def DateTime.readDay?
    (cs : List Char) :
    Option DateTime := do
  let (date, cs) ← Date.read? cs
  if cs.isEmpty then some ⟨date, .midnight⟩ else none

/- Read characters in the first layout that fits them. -/
def DateTime.readAny?
    (cs : List Char) :
    Option DateTime :=
  DateTime.read? .space cs <|>
    DateTime.read? .letter cs <|>
    DateTime.readDay? cs

/- Read a text, without the white space around it. -/
def DateTime.parse?
    (s : String) :
    Option DateTime :=
  DateTime.readAny? (Text.trimChars s.toList)

end Calendar

end GraphClient
