import GraphClient.Number.Numeral
import GraphClient.Number.Shortest
/-
  The two ways to lay out a floating-point number.

  Key definitions include:
    * `GraphClient.Binary64.plainText`
    * `GraphClient.Binary64.numeral`

  Both show the shortest decimal.  The plain layout never uses
  a power of ten, leaves out an empty fraction, and of two
  equally near decimals takes the greater magnitude.  A numeral
  keeps `.0` on integers, uses a power of ten from 10^16 on and
  below 10^-5, and takes the decimal with the even last digit.
-/

------------------------------------------------------------
-- Positional Digits
------------------------------------------------------------

namespace GraphClient

namespace Decimal

/- The digits of a decimal. -/
def digitChars
    (d : Decimal) :
    List Char :=
  Numeral.digitsOf d.digits

/- Where the point stands, counted from the first digit. -/
def point
    (d : Decimal) :
    Int :=
  d.digitChars.length + d.exponent

/- The digits before the point. -/
def wholeChars
    (d : Decimal) :
    List Char :=
  if d.point ≤ 0 then
    ['0']
  else
    d.digitChars.take d.point.toNat ++
      List.replicate d.exponent.toNat '0'

/- The digits after the point. -/
def fractionChars
    (d : Decimal) :
    List Char :=
  if d.exponent < 0 then
    List.replicate (-d.point).toNat '0' ++
      d.digitChars.drop d.point.toNat
  else
    []

end Decimal

end GraphClient

------------------------------------------------------------
-- Layouts
------------------------------------------------------------

namespace GraphClient

namespace Binary64

/- Positional digits without a power, at any magnitude. -/
def plainText
    (x : Binary64) :
    String :=
  let sign := if x.isNegative then "-" else ""
  if x.isNaN then
    "NaN"
  else if !x.isFinite then
    sign ++ "inf"
  else
    let d := x.shortest .upward
    let fraction :=
      if d.fractionChars.isEmpty then
        []
      else
        '.' :: d.fractionChars
    sign ++ String.ofList (d.wholeChars ++ fraction)

/- Whether a decimal is written without a power of ten. -/
def isPositional
    (d : Decimal) :
    Bool :=
  -4 ≤ d.point && d.point ≤ 16

/- The numeral of a finite number. -/
def numeral
    (x : Binary64) :
    Numeral :=
  let d := x.shortest .toEven
  if d.digits == 0 then
    ⟨x.isNegative, ['0'], some ['0'], none⟩
  else if isPositional d then
    let fraction :=
      if d.fractionChars.isEmpty then
        ['0']
      else
        d.fractionChars
    ⟨x.isNegative, d.wholeChars, some fraction, none⟩
  else
    let power := d.point - 1
    let fraction :=
      match d.digitChars.drop 1 with
      | [] => none
      | digits => some digits
    ⟨x.isNegative, d.digitChars.take 1, fraction,
      some ⟨power < 0, Numeral.digitsOf power.natAbs⟩⟩

end Binary64

end GraphClient
