import GraphClient.Number.Numeral
import GraphClient.Number.Binary64
/-
  The numbers that numerals denote.

  Key definitions include:
    * `GraphClient.Number`
    * `GraphClient.Numeral.value?`
    * `GraphClient.Binary64.parse?`

  A numeral without fraction and power is an integer as long
  as its magnitude fits into 64 bits; a minus needs a magnitude
  from 1 to 2^63.  Any other numeral is a floating-point
  number, computed in two rounded steps: the leading digits
  that fit into 64 bits are read as an integer, and that
  integer is multiplied or divided by powers of ten.  The
  result is therefore not always the nearest number.

  `Binary64.parse?` reads a text to the nearest number.
-/

------------------------------------------------------------
-- Significands
------------------------------------------------------------

namespace GraphClient

/- An integer or a floating-point number. -/
inductive Number
| int (n : Int)
| float (x : Binary64)
deriving DecidableEq

namespace Numeral

/- The largest significand, and the largest unsigned integer. -/
def maxWord : Nat :=
  Nat.pow 2 64 - 1

/- Read digits while the value fits, and count those left. -/
def takeFitting
    (value : Nat) :
    List Char → Nat × Nat
| [] => (value, 0)
| c :: rest =>
    let next := value * 10 + digitValue c
    if next ≤ maxWord then
      takeFitting next rest
    else
      (value, rest.length + 1)

/- The significand and the decimal exponent without the power. -/
def scaled
    (n : Numeral) :
    Nat × Int :=
  let (value, dropped) := takeFitting 0 n.whole
  match n.fraction with
  | none => (value, dropped)
  | some digits =>
      let (value, left) := takeFitting value digits
      (value, (dropped : Int) - (digits.length - left : Nat))

end Numeral

end GraphClient

------------------------------------------------------------
-- Powers of Ten
------------------------------------------------------------

namespace GraphClient

namespace Binary64

/- The number nearest to a power of ten. -/
def powerOfTen
    (k : Nat) :
    Binary64 :=
  ofRatio false (Nat.pow 10 k) 1

/- Divide by a power of ten, in steps of at most `10^308`. -/
def divideByPower
    (x : Binary64)
    (k : Nat) :
    Binary64 :=
  if k ≤ 308 then
    x.div (powerOfTen k)
  else if x.isZero then
    x
  else
    divideByPower (x.div (powerOfTen 308)) (k - 308)
termination_by k

/- Multiply by a power of ten; none when that is too large. -/
def multiplyByPower?
    (x : Binary64)
    (k : Nat) :
    Option Binary64 :=
  if k ≤ 308 then
    let y := x.mul (powerOfTen k)
    if y.isFinite then some y else none
  else if x.isZero then
    some x
  else
    none

/- The magnitude of a scaled significand. -/
def ofScaled?
    (value : Nat)
    (exponent : Int) :
    Option Binary64 :=
  let x := ofRatio false value 1
  if 0 ≤ exponent then
    x.multiplyByPower? exponent.toNat
  else
    some (x.divideByPower (-exponent).toNat)

end Binary64

end GraphClient

------------------------------------------------------------
-- Values of Numerals
------------------------------------------------------------

namespace GraphClient

namespace Numeral

/- The largest written power that is taken at its word. -/
def maxPower : Nat :=
  Nat.pow 2 31 - 1

/- The number with a sign. -/
def signed
    (negative : Bool)
    (x : Binary64) :
    Binary64 :=
  if negative then x.neg else x

/- The floating-point value; none when it is too large. -/
def float?
    (n : Numeral) :
    Option Binary64 :=
  let (value, exponent) := n.scaled
  match n.power with
  | none =>
      (Binary64.ofScaled? value exponent).map (signed n.negative)
  | some p =>
      let k := valueOf p.digits
      if maxPower < k then
        if value != 0 && !p.negative then
          none
        else
          some (signed n.negative (Binary64.ofRatio false 0 1))
      else
        let shift : Int := if p.negative then -k else k
        (Binary64.ofScaled? value (exponent + shift)).map
          (signed n.negative)

/- The integer value, if the numeral is an integer that fits. -/
def integer?
    (n : Numeral) :
    Option Int :=
  if n.fraction.isNone && n.power.isNone then
    let value := valueOf n.whole
    if n.negative then
      if 0 < value && value ≤ Nat.pow 2 63 then
        some (-(value : Int))
      else
        none
    else if value ≤ maxWord then
      some value
    else
      none
  else
    none

/- The value of a numeral; none when it is too large. -/
def value?
    (n : Numeral) :
    Option Number :=
  match n.integer? with
  | some i => some (.int i)
  | none => n.float?.map .float

end Numeral

end GraphClient

------------------------------------------------------------
-- Nearest Numbers of Texts
------------------------------------------------------------

namespace GraphClient

namespace Binary64

/- The number nearest to a decimal of any size. -/
def ofDecimal
    (negative : Bool)
    (digits : List Char)
    (exponent : Int) :
    Binary64 :=
  let digits := digits.dropWhile (fun c => c == '0')
  let point := digits.length + exponent
  if digits.isEmpty || point < -400 then
    ofMagnitude negative 0
  else if 400 < point then
    infinity negative
  else
    ofRatio negative
      (Numeral.valueOf digits * Nat.pow 10 exponent.toNat)
      (Nat.pow 10 (-exponent).toNat)

/- The power of ten at the end of a text. -/
def parsePower?
    (cs : List Char) :
    Option Int :=
  match cs with
  | [] => some 0
  | c :: rest =>
      if c == 'e' || c == 'E' then
        match Numeral.readSignedDigits? rest with
        | some (some p, []) =>
            let k : Int := Numeral.valueOf p.digits
            some (if p.negative then -k else k)
        | _ => none
      else
        none

/- A positive number: digits with a point, and a power. -/
def parseDigits?
    (negative : Bool)
    (cs : List Char) :
    Option Binary64 :=
  let (whole, rest) := Numeral.spanDigits cs
  let (fraction, rest) :=
    match rest with
    | '.' :: rest => Numeral.spanDigits rest
    | _ => ([], rest)
  if whole.isEmpty && fraction.isEmpty then
    none
  else
    (parsePower? rest).map (fun k =>
      ofDecimal negative (whole ++ fraction) (k - fraction.length))

/- The number nearest to a text, if the text is a number. -/
def parse?
    (s : String) :
    Option Binary64 :=
  let (negative, cs) := Numeral.readSign s.toList
  let word := String.ofList (cs.map Char.toLower)
  if word == "nan" then
    some nan
  else if word == "inf" || word == "infinity" then
    some (infinity negative)
  else
    parseDigits? negative cs

end Binary64

end GraphClient
