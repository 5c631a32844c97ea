/-
  Written numbers.

  Key definitions include:
    * `GraphClient.Numeral`
    * `GraphClient.Numeral.text`
    * `GraphClient.Numeral.read?`

  A numeral is a sign, a whole part, an optional fraction and
  an optional power of ten.  The whole part is a single zero
  or starts with another digit, and no part is empty.
-/

------------------------------------------------------------
-- Numerals
------------------------------------------------------------

namespace GraphClient

/- The written power of ten of a numeral. -/
structure Numeral.Power where
  negative : Bool
  digits : List Char
deriving DecidableEq, Repr

/- A number as it is written. -/
structure Numeral where
  negative : Bool
  whole : List Char
  fraction : Option (List Char)
  power : Option Numeral.Power
deriving DecidableEq, Repr

namespace Numeral

/- Whether a character is a decimal digit. -/
def isDigit
    (c : Char) :
    Bool :=
  '0' ≤ c && c ≤ '9'

/- The value of a digit. -/
def digitValue
    (c : Char) :
    Nat :=
  c.toNat - '0'.toNat

/- The decimal digits of a natural number. -/
def digitsOf
    (n : Nat) :
    List Char :=
  Nat.toDigits 10 n

/- The natural number of a list of digits. -/
def valueOf
    (digits : List Char) :
    Nat :=
  digits.foldl (fun n c => n * 10 + digitValue c) 0

/- The numeral of an integer. -/
def ofInt
    (n : Int) :
    Numeral :=
  ⟨n < 0, digitsOf n.natAbs, none, none⟩

end Numeral

end GraphClient

------------------------------------------------------------
-- Writing
------------------------------------------------------------

namespace GraphClient

namespace Numeral

/- The characters of a written power, with its sign. -/
def Power.chars
    (p : Power) :
    List Char :=
  'e' :: (if p.negative then '-' else '+') :: p.digits

/- The characters of a numeral. -/
def chars
    (n : Numeral) :
    List Char :=
  (if n.negative then ['-'] else []) ++ n.whole ++
    (match n.fraction with
    | none => []
    | some digits => '.' :: digits) ++
    (match n.power with
    | none => []
    | some p => p.chars)

/- The text of a numeral. -/
def text
    (n : Numeral) :
    String :=
  String.ofList n.chars

end Numeral

end GraphClient

------------------------------------------------------------
-- Reading
------------------------------------------------------------

namespace GraphClient

namespace Numeral

/- Split the digits at the start from the rest. -/
def spanDigits
    (cs : List Char) :
    List Char × List Char :=
  (cs.takeWhile isDigit, cs.dropWhile isDigit)

/- Read at least one digit. -/
def readDigits?
    (cs : List Char) :
    Option (List Char × List Char) :=
  match spanDigits cs with
  | ([], _) => none
  | (digits, rest) => some (digits, rest)

/- Read a whole part: no zero may stand before a digit. -/
def readWhole?
    (cs : List Char) :
    Option (List Char × List Char) :=
  match readDigits? cs with
  | some ('0' :: _ :: _, _) => none
  | answer => answer

/- Read a fraction, if a point says that there is one. -/
def readFraction?
    (cs : List Char) :
    Option (Option (List Char) × List Char) :=
  match cs with
  | '.' :: rest =>
      (readDigits? rest).map (fun (digits, rest) => (some digits, rest))
  | _ => some (none, cs)

/- Read the sign of a power; no sign is a plus. -/
def readSign
    (cs : List Char) :
    Bool × List Char :=
  match cs with
  | '+' :: rest => (false, rest)
  | '-' :: rest => (true, rest)
  | _ => (false, cs)

/- Read the signed digits of a power. -/
def readSignedDigits?
    (cs : List Char) :
    Option (Option Power × List Char) :=
  let (negative, rest) := readSign cs
  (readDigits? rest).map
    (fun (digits, rest) => (some ⟨negative, digits⟩, rest))

/- Read a power, if a marker says that there is one. -/
def readPower?
    (cs : List Char) :
    Option (Option Power × List Char) :=
  match cs with
  | 'e' :: rest => readSignedDigits? rest
  | 'E' :: rest => readSignedDigits? rest
  | _ => some (none, cs)

/- Read the part of a numeral after its sign. -/
def readUnsigned?
    (negative : Bool)
    (cs : List Char) :
    Option (Numeral × List Char) := do
  let (whole, cs) ← readWhole? cs
  let (fraction, cs) ← readFraction? cs
  let (power, cs) ← readPower? cs
  return (⟨negative, whole, fraction, power⟩, cs)

/- Read a numeral at the start of a text. -/
def read?
    (cs : List Char) :
    Option (Numeral × List Char) :=
  match cs with
  | '-' :: rest => readUnsigned? true rest
  | _ => readUnsigned? false cs

end Numeral

end GraphClient
